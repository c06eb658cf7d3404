import DeckPress.Proofs.Style.Inline

/-!
A stylesheet read with comments, quotes and brackets in mind. A mark ends something only where no
comment, no quote and no bracket is open. What a deck brings in has lost the characters that could
end a declaration or a rule, but not those that open something. The sheet is read as the rules it
was made of exactly when each of these values closes whatever it opens.
-/

namespace DeckPress.Style

open Text

/-! ## Reading -/

/-- What a reader is in the middle of; a slash may start a comment, and a star in one may end it. -/
inductive Lexis where
  | text (q : Quoting)
  | slash
  | comment
  | star
  deriving DecidableEq

inductive Bracket where
  | round
  | square
  | curly
  deriving DecidableEq

def opens? : Char → Option Bracket
  | '(' => some .round
  | '[' => some .square
  | '\x7b' => some .curly
  | _ => none

def closes? : Char → Option Bracket
  | ')' => some .round
  | ']' => some .square
  | '\x7d' => some .curly
  | _ => none

/-- The open brackets, the innermost first, and what the reader is in the middle of. -/
structure Nesting where
  opened : List Bracket
  lexis : Lexis
  deriving DecidableEq

namespace Nesting

def start : Nesting :=
  ⟨[], .text .plain⟩

/-- An end that is not that of the innermost bracket means nothing. -/
def leave (b : Bracket) : List Bracket → List Bracket
  | [] => []
  | first :: opened => if first = b then opened else first :: opened

def bare (s : Nesting) (c : Char) : Nesting :=
  if c = '/' then { s with lexis := .slash }
  else
    match opens? c, closes? c with
    | some b, _ => ⟨b :: s.opened, .text .plain⟩
    | none, some b => ⟨leave b s.opened, .text .plain⟩
    | none, none => { s with lexis := .text (Quoting.plain.step c) }

def step (s : Nesting) (c : Char) : Nesting :=
  match s.lexis with
  | .text .plain => s.bare c
  | .text q => { s with lexis := .text (q.step c) }
  | .slash => if c = '*' then { s with lexis := .comment } else s.bare c
  | .comment => if c = '*' then { s with lexis := .star } else s
  | .star =>
    if c = '/' then { s with lexis := .text .plain }
    else if c = '*' then s
    else { s with lexis := .comment }

def run (s : Nesting) (text : List Char) : Nesting :=
  text.foldl step s

/-- Nothing is open, and no comment has started. -/
def Free (s : Nesting) : Prop :=
  s.opened = [] ∧ (s.lexis = .text .plain ∨ s.lexis = .slash)

def under (s : Nesting) (b : Bracket) : Nesting :=
  { s with opened := s.opened ++ [b] }

end Nesting

open Nesting

/-- Text in which a mark ends a piece where it gets the reader to a certain state. -/
def nested (mark : Char) (goal : Nesting) : Cutter where
  State := Nesting
  start := start
  step? s c := if c = mark ∧ s.step c = goal then none else some (s.step c)

/-- A rule is a selector, an opening brace, and declarations that each end with a semicolon. -/
def nestedRule? (piece : List Char) : Option Rule :=
  match (nested '\x7b' (start.under .curly)).pieces start piece with
  | [selector, body] =>
    ((nested ';' start).read? declared? body).map (Rule.mk (trimmed selector))
  | _ => none

def nestedRules? (css : String) : Option (List Rule) :=
  (nested '\x7d' start).read? nestedRule? css.toList

/-- Behind a value no comment, no quote and no bracket is open. -/
def Closed (value : String) : Prop :=
  (start.run value.toList).Free

instance (value : String) : Decidable (Closed value) :=
  inferInstanceAs (Decidable (_ ∧ _))

/-! ## Steps -/

/-- The characters that get a reader into something, or out of it. -/
def marks : List Char :=
  ['/', '(', ')', '[', ']', '\x7b', '\x7d', '"', '\'']

namespace Nesting

variable {s : Nesting} {c : Char} {text : List Char}

theorem run_append (s : Nesting) (text rest : List Char) :
    s.run (text ++ rest) = (s.run text).run rest :=
  List.foldl_append

theorem bare_plain (plain : c ∉ marks) : s.bare c = { s with lexis := .text .plain } := by
  simp only [marks, List.mem_cons, List.not_mem_nil, or_false, not_or] at plain
  have opens : opens? c = none := by
    unfold opens?
    split <;> simp_all
  have closes : closes? c = none := by
    unfold closes?
    split <;> simp_all
  simp [bare, opens, closes, plain, Quoting.step]

theorem run_plain (plain : ∀ c ∈ text, c ∉ marks) : start.run text = start := by
  induction text with
  | nil => rfl
  | cons c rest ih =>
    rw [List.forall_mem_cons] at plain
    have first : start.step c = start := bare_plain plain.1
    rw [run, List.foldl_cons, first]
    exact ih plain.2

/-- Characters without a meaning of their own do not get a reader out of anything. -/
theorem free_step_iff (plain : c ∉ '*' :: marks) : (s.step c).Free ↔ s.Free := by
  rw [List.mem_cons, not_or] at plain
  obtain ⟨star, plain⟩ := plain
  have slash : c ≠ '/' := fun same => plain (by simp [marks, same])
  have quote (q : Quote) : c ≠ q.char := by
    rintro rfl
    cases q <;> simp [marks, Quote.char] at plain
  obtain ⟨opened, lexis⟩ := s
  cases lexis with
  | text q =>
    cases q with
    | plain => simp [step, bare_plain plain, Free]
    | quoted q =>
      by_cases escape : c = '\\' <;> simp [step, Free, Quoting.step, escape, quote]
    | escaped q => simp [step, Free, Quoting.step]
  | slash => simp [step, star, bare_plain plain, Free]
  | comment => simp [step, star, Free]
  | star => simp [step, star, slash, Free]

theorem free_run_iff (plain : ∀ c ∈ text, c ∉ '*' :: marks) : (s.run text).Free ↔ s.Free := by
  induction text generalizing s with
  | nil => rfl
  | cons c rest ih =>
    rw [List.forall_mem_cons] at plain
    exact (ih plain.2).trans (free_step_iff plain.1)

theorem semicolon_iff : s.step ';' = start ↔ s.Free := by
  have plain : ';' ∉ '*' :: marks := by decide
  constructor
  · intro back
    rw [← free_step_iff plain, back]
    exact ⟨rfl, Or.inl rfl⟩
  · obtain ⟨opened, lexis⟩ := s
    rintro ⟨nothing, outside⟩
    cases nothing
    rcases outside with same | same <;> cases same <;> rfl

theorem leave_append {b d : Bracket} (other : b ≠ d) (opened : List Bracket) :
    leave b (opened ++ [d]) = leave b opened ++ [d] := by
  cases opened with
  | nil => simp [leave, other.symm]
  | cons first opened => by_cases same : first = b <;> simp [leave, same]

/-- What is open around a text does not matter to it, unless the text ends that. -/
theorem step_under (inside : c ≠ '\x7d') : (s.under .curly).step c = (s.step c).under .curly := by
  have bared : (s.under .curly).bare c = (s.bare c).under .curly := by
    unfold bare
    split
    · rfl
    · split
      · rfl
      · rename_i b _ closes
        have other : b ≠ .curly := by
          rintro rfl
          unfold closes? at closes
          split at closes <;> simp_all
        simp only [under, leave_append other]
      · rfl
  obtain ⟨opened, lexis⟩ := s
  cases lexis with
  | text q => cases q <;> first | exact bared | rfl
  | slash =>
    by_cases star : c = '*'
    · simp [step, under, star]
    · simpa [step, under, star] using bared
  | comment => by_cases star : c = '*' <;> simp [step, under, star]
  | star =>
    by_cases slash : c = '/'
    · simp [step, under, slash]
    · by_cases star : c = '*' <;> simp [step, under, slash, star]

theorem run_under (inside : '\x7d' ∉ text) :
    (s.under .curly).run text = (s.run text).under .curly := by
  induction text generalizing s with
  | nil => rfl
  | cons c rest ih =>
    rw [List.mem_cons, not_or] at inside
    rw [run, run, List.foldl_cons, List.foldl_cons, step_under (Ne.symm inside.1)]
    exact ih inside.2

end Nesting

/-! ## Pieces -/

section Pieces

variable {mark : Char} {goal s : Nesting} {text rest : List Char}

theorem stops_nested_iff {c : Char} :
    (nested mark goal).step? s c = none ↔ c = mark ∧ s.step c = goal := by
  simp [nested]

theorem ends_nested (mark : Char) (goal : Nesting) : (nested mark goal).EndsOnly mark :=
  fun _ _ stops => (stops_nested_iff.mp stops).1

theorem passes_nested (apart : mark ∉ text) : (nested mark goal).Passes s text (s.run text) := by
  induction text generalizing s with
  | nil => exact Cutter.passes_nil.mpr rfl
  | cons c rest ih =>
    rw [List.mem_cons, not_or] at apart
    refine Cutter.passes_cons.mpr ⟨s.step c, ?_, ih apart.2⟩
    simp [nested, Ne.symm apart.1]

theorem closes_nested_iff (apart : mark ∉ text) :
    (nested mark goal).Closes text mark ↔ start.run (text ++ [mark]) = goal := by
  have passed : (nested mark goal).Passes start text (start.run text) := passes_nested apart
  rw [run_append]
  constructor
  · rintro ⟨t, passed', stops⟩
    cases Option.some.inj (passed.symm.trans passed')
    exact (stops_nested_iff.mp stops).2
  · exact fun reached => ⟨_, passed, stops_nested_iff.mpr ⟨rfl, reached⟩⟩

end Pieces

/-! ## Declarations -/

theorem closed_append_iff {value ending : String} (plain : Lacks ('*' :: marks) ending) :
    Closed (value ++ ending) ↔ Closed value := by
  rw [Closed, String.toList_append, run_append]
  exact free_run_iff fun c member mark => plain c mark member

section Declarations

variable {d : Declaration}

theorem inner_eq (d : Declaration) : ' ' :: d.inner = head [' '] d ++ d.value.toList := by
  simp [head, Declaration.inner]

/-- A declaration that was read gets a reader back to where it started if the value is closed. -/
theorem run_inner_iff (named : Named d) :
    start.run (' ' :: d.inner ++ [';']) = start ↔ Closed d.value := by
  have plain : ∀ c ∈ head [' '] d, c ∉ marks := fun c member =>
    not_mem_of_isHeadPart (by decide) (isHeadPart_head (by simp) named c member)
  rw [inner_eq, run_append, run_append, run_plain plain]
  exact semicolon_iff

theorem declared?_inner (named : Named d) : declared? (' ' :: d.inner) = some d := by
  rw [inner_eq, declared?_head (by simp) named, String.ofList_toList]

end Declarations

theorem forall₂_iff_eq {α : Type} {R : α → α → Prop} {P : α → Prop} {xs ys : List α}
    (each : ∀ x ∈ xs, ∀ y, R x y ↔ P x ∧ x = y) :
    List.Forall₂ R xs ys ↔ (∀ x ∈ xs, P x) ∧ xs = ys := by
  induction xs generalizing ys with
  | nil => simp [eq_comm]
  | cons x xs ih =>
    rw [List.forall_mem_cons] at each
    cases ys with
    | nil => simp
    | cons y ys =>
      rw [List.forall₂_cons, each.1, ih each.2, List.forall_mem_cons, List.cons.injEq]
      tauto

/-! ## Rules -/

/-- A rule whose selector and properties have no meaning of their own to a reader. -/
structure Rule.Plain (r : Rule) : Prop where
  parted : r.Parted
  selector : Lacks marks r.selector
  named : ∀ d ∈ r.declarations, Named d

namespace Rule

variable {r : Rule}

theorem body_joined (filled : r.declarations ≠ []) :
    r.body = Cutter.joined ';' (r.declarations.map fun d => ' ' :: d.inner) [' '] := by
  rw [body_eq, append_intercalate_eq_flatMap (by simpa using filled)]
  simp [Cutter.joined, List.flatMap_map]

theorem not_mem_inner (parted : r.Parted) {d : Declaration} (member : d ∈ r.declarations) :
    ';' ∉ ' ' :: d.inner := by
  obtain ⟨property, -, value⟩ := parted.2.2.2 d member
  simp [Declaration.inner, property ';', value ';']

/-- All declarations of a rule are read exactly when all values are closed, and then as they are. -/
theorem read_body_iff (plain : r.Plain) {found : Declarations} :
    (nested ';' start).read? declared? r.body = some found ∧
        found.length = r.declarations.length ↔
      (∀ d ∈ r.declarations, Closed d.value) ∧ r.declarations = found := by
  have apart : ∀ piece ∈ r.declarations.map fun d => ' ' :: d.inner, ';' ∉ piece :=
    List.forall_mem_map.mpr fun d member => not_mem_inner plain.parted member
  have blank : (nested ';' start).read? declared? [' '] = some [] :=
    Cutter.read?_eq_nil_iff.mpr ⟨rfl, start, rfl⟩
  have length : (r.declarations.map fun d => ' ' :: d.inner).length = r.declarations.length :=
    List.length_map ..
  rw [body_joined plain.parted.2.2.1, ← length,
    Cutter.read?_joined_iff (ends_nested ';' start) apart (by decide) blank,
    List.forall₂_map_left_iff]
  refine forall₂_iff_eq fun d member e => ?_
  rw [closes_nested_iff (not_mem_inner plain.parted member), run_inner_iff (plain.named d member),
    declared?_inner (plain.named d member), Option.some_inj]

def front (r : Rule) : List Char :=
  "\n    ".toList ++ r.selector.toList ++ [' ']

theorem inner_front (r : Rule) : '\n' :: r.inner = r.front ++ '\x7b' :: r.body := by
  simp [inner, front]

theorem not_mem_end (parted : r.Parted) : '\x7d' ∉ '\n' :: r.inner := by
  have selector : '\x7d' ∉ r.selector.toList := parted.1 '\x7d' (by decide)
  have body : '\x7d' ∉ r.body := not_mem_body parted (by decide)
  simp [inner_front, front, selector, body]

theorem run_front (plain : r.Plain) : start.run r.front = start := by
  refine run_plain ?_
  simp only [front, List.forall_mem_append]
  exact ⟨⟨by simp [marks], fun c member mark => plain.selector c mark member⟩, by simp [marks]⟩

theorem nestedRule?_inner (plain : r.Plain) : nestedRule? ('\n' :: r.inner) =
    ((nested ';' start).read? declared? r.body).map (Rule.mk r.selector) := by
  have before : '\x7b' ∉ r.front := by
    have selector : '\x7b' ∉ r.selector.toList := plain.parted.1 '\x7b' (by decide)
    simp [front, selector]
  have passed : (nested '\x7b' (start.under .curly)).Passes start r.front start := by
    have reached : (nested '\x7b' (start.under .curly)).Passes start r.front (start.run r.front) :=
      passes_nested before
    rwa [run_front plain] at reached
  have behind : '\x7b' ∉ r.body := not_mem_body plain.parted (by decide)
  have cut : (nested '\x7b' (start.under .curly)).pieces start ('\n' :: r.inner) =
      [r.front, r.body] := by
    rw [inner_front, Cutter.pieces_stop passed rfl]
    exact congrArg _ (Cutter.pieces_whole (passes_nested behind))
  have name : trimmed r.front = r.selector := by
    rw [front, trimmed_append _ _ _ rfl rfl, plain.parted.2.1]
  simp only [nestedRule?, cut, name]

theorem run_body (plain : r.Plain) (closed : ∀ d ∈ r.declarations, Closed d.value) :
    start.run r.body = start := by
  rw [body_joined plain.parted.2.2.1]
  have named := plain.named
  generalize r.declarations = ds at closed named
  induction ds with
  | nil => rfl
  | cons d ds ih =>
    rw [List.forall_mem_cons] at closed named
    rw [List.map_cons, Cutter.joined_cons, List.append_cons, run_append,
      (run_inner_iff named.1).mpr closed.1]
    exact ih closed.2 named.2

theorem run_inner (plain : r.Plain) (closed : ∀ d ∈ r.declarations, Closed d.value) :
    start.run ('\n' :: r.inner ++ ['\x7d']) = start := by
  have inside : '\x7d' ∉ r.body := not_mem_body plain.parted (by decide)
  have opened : start.step '\x7b' = start.under .curly := rfl
  rw [inner_front, List.append_assoc, run_append, run_front plain, List.cons_append, run,
    List.foldl_cons, opened]
  change (start.under .curly).run (r.body ++ ['\x7d']) = start
  rw [run_append, run_under inside, run_body plain closed]
  rfl

/-- A rule that was read with all its declarations is the rule that was written. -/
theorem nestedRule?_iff (plain : r.Plain) {f : Rule} :
    ((nested '\x7d' start).Closes ('\n' :: r.inner) '\x7d' ∧
          nestedRule? ('\n' :: r.inner) = some f) ∧
        f.declarations.length = r.declarations.length ↔
      (∀ d ∈ r.declarations, Closed d.value) ∧ r = f := by
  rw [nestedRule?_inner plain, Option.map_eq_some_iff]
  constructor
  · rintro ⟨⟨-, ds, found, rfl⟩, length⟩
    obtain ⟨closed, same⟩ := (read_body_iff plain).mp ⟨found, length⟩
    exact ⟨closed, by rw [← same]⟩
  · rintro ⟨closed, rfl⟩
    obtain ⟨found, -⟩ := (read_body_iff plain).mpr ⟨closed, rfl⟩
    refine ⟨⟨?_, _, found, rfl⟩, rfl⟩
    rw [closes_nested_iff (not_mem_end plain.parted)]
    exact run_inner plain closed

end Rule

/-! ## Sheets -/

def sizes (rs : List Rule) : List Nat :=
  rs.map fun r => r.declarations.length

theorem sizes_eq_iff {rs fs : List Rule} : sizes rs = sizes fs ↔
    List.Forall₂ (fun r f => f.declarations.length = r.declarations.length) rs fs := by
  rw [sizes, sizes, ← List.forall₂_eq_eq_eq, List.forall₂_map_left_iff, List.forall₂_map_right_iff]
  simp only [eq_comm]

theorem sizes_sameBeside {places : List (String × String)} {rs fs : List Rule}
    (same : List.Forall₂ (Rule.SameBeside places) rs fs) : sizes rs = sizes fs :=
  sizes_eq_iff.mpr (same.imp fun _ _ here => here.declarations.length_eq.symm)

/-- As many rules as were written, each with as many declarations, are read exactly when all values
are closed, and then they are the rules that were written. -/
theorem nestedRules?_lines {rs found : List Rule} (filled : rs ≠ []) (plain : ∀ r ∈ rs, r.Plain) :
    nestedRules? ("\n" ++ String.intercalate "\n" (rs.map Rule.text) ++ "\n  ") = some found ∧
        sizes rs = sizes found ↔
      (∀ r ∈ rs, ∀ d ∈ r.declarations, Closed d.value) ∧ rs = found := by
  have written : ("\n" ++ String.intercalate "\n" (rs.map Rule.text) ++ "\n  ").toList =
      Cutter.joined '\x7d' (rs.map fun r => '\n' :: r.inner) "\n  ".toList := by
    have lines : ['\n'] ++ ['\n'].intercalate (rs.map fun r => r.text.toList) = _ :=
      append_intercalate_eq_flatMap (by simpa using filled)
    rw [String.toList_append, String.toList_append, String.toList_intercalate, List.map_map]
    refine congrArg (· ++ "\n  ".toList) (lines.trans ?_)
    simp [List.flatMap_map, Rule.toList_text]
  have blank : (nested '\x7d' start).read? nestedRule? "\n  ".toList = some [] :=
    Cutter.read?_eq_nil_iff.mpr ⟨rfl, start, rfl⟩
  have counted : nestedRules? ("\n" ++ String.intercalate "\n" (rs.map Rule.text) ++ "\n  ") =
        some found ∧ found.length = rs.length ↔
      List.Forall₂ (fun r f => (nested '\x7d' start).Closes ('\n' :: r.inner) '\x7d' ∧
        nestedRule? ('\n' :: r.inner) = some f) rs found := by
    have length : (rs.map fun r => '\n' :: r.inner).length = rs.length := List.length_map ..
    rw [nestedRules?, written, ← length,
      Cutter.read?_joined_iff (ends_nested '\x7d' start) ?_ (by decide) blank,
      List.forall₂_map_left_iff]
    exact List.forall_mem_map.mpr fun r member => Rule.not_mem_end (plain r member).parted
  rw [← forall₂_iff_eq fun r member f => Rule.nestedRule?_iff (plain r member), sizes_eq_iff]
  constructor
  · rintro ⟨read, lengths⟩
    exact (counted.mp ⟨read, lengths.length_eq.symm⟩).mp (fun _ _ here length => ⟨here, length⟩)
      lengths
  · intro each
    obtain ⟨read, -⟩ := counted.mpr (each.imp fun _ _ both => both.1)
    exact ⟨read, each.imp fun _ _ both => both.2⟩

/-! ## The sheet of a deck -/

/-- The values that a sheet takes from its deck. The width and the height have the unit behind
them, and what a slash starts in one may be a star in the other. -/
def themeValues (deck : Deck) : List String :=
  [safeText (entryOr deck.fontTable "body" "Arial"),
    safeText deck.slideSize.w.toJson ++ safeText (.str deck.slideSize.unit),
    safeText deck.slideSize.h.toJson ++ safeText (.str deck.slideSize.unit),
    safeText (entryOr deck.palette "bg" "#ffffff")]

section Deck

variable (deckClass : ClassName) (deck : Deck)

theorem plain_rules : ∀ r ∈ rules deckClass deck, r.Plain := by
  have name : Lacks marks deckClass.text := lacks_className (by decide) deckClass
  have selectors : ∀ r ∈ rules deckClass deck, Lacks marks r.selector := by
    simp +decide only [rules, List.forall_mem_cons, lacks_append, name, and_true]
  have named : ∀ r ∈ rules deckClass deck, ∀ d ∈ r.declarations, Named d := by
    simp +decide only [rules, fullBleed, Named, List.forall_mem_cons, List.forall_mem_append,
      and_true]
  exact fun r member => ⟨parted_rules deckClass deck r member, selectors r member, named r member⟩

theorem closed_rules_iff : (∀ r ∈ rules deckClass deck, ∀ d ∈ r.declarations, Closed d.value) ↔
    ∀ v ∈ themeValues deck, Closed v := by
  have fallback : Lacks ('*' :: marks) ", sans-serif" := by decide
  simp +decide only [rules, fullBleed, themeValues, closed_append_iff fallback,
    List.forall_mem_cons, List.forall_mem_append, and_true, true_and]

theorem read_sheet_iff {found : List Rule} :
    nestedRules? (sheet deckClass deck) = some found ∧
        sizes (rules deckClass deck) = sizes found ↔
      (∀ v ∈ themeValues deck, Closed v) ∧ rules deckClass deck = found := by
  rw [← closed_rules_iff deckClass]
  exact nestedRules?_lines (List.cons_ne_nil _ _) (plain_rules deckClass deck)

theorem read_sheet_empty :
    nestedRules? (sheet deckClass (.ofRecord [])) = some (rules deckClass (.ofRecord [])) :=
  ((read_sheet_iff deckClass _).mpr ⟨by decide, rfl⟩).1

/-- The twelve rules of an empty deck are found, with other values where a deck brings them in. -/
def FindsRules : Prop :=
  ∃ found plain, nestedRules? (sheet deckClass deck) = some found ∧
    nestedRules? (sheet deckClass (.ofRecord [])) = some plain ∧ found.length = 12 ∧
    List.Forall₂ (Rule.SameBeside (themed deckClass)) found plain

theorem findsRules_iff : FindsRules deckClass deck ↔ ∀ v ∈ themeValues deck, Closed v := by
  have beside := rules_sameBeside deckClass deck (.ofRecord [])
  constructor
  · rintro ⟨found, plain, read, empty, -, same⟩
    cases (read_sheet_empty deckClass).symm.trans empty
    have counted := (sizes_sameBeside beside).trans (sizes_sameBeside same).symm
    exact ((read_sheet_iff deckClass deck).mp ⟨read, counted⟩).1
  · intro closed
    obtain ⟨read, -⟩ := (read_sheet_iff deckClass deck).mpr ⟨closed, rfl⟩
    exact ⟨_, _, read, read_sheet_empty deckClass, rfl, beside⟩

/-- A reader that minds comments, quotes and brackets reads the rules of a deck exactly when its
values are closed; and only then does it find the rules that it finds for an empty deck. -/
theorem nestedRules?_sheet :
    (nestedRules? (sheet deckClass deck) = some (rules deckClass deck) ↔
      ∀ v ∈ themeValues deck, Closed v) ∧
    (FindsRules deckClass deck ↔ ∀ v ∈ themeValues deck, Closed v) := by
  refine ⟨⟨fun read => ?_, fun closed => ?_⟩, findsRules_iff deckClass deck⟩
  · exact ((read_sheet_iff deckClass deck).mp ⟨read, rfl⟩).1
  · exact ((read_sheet_iff deckClass deck).mpr ⟨closed, rfl⟩).1

end Deck

/-! Fonts that open a comment, a quote and a bracket. -/

def fontDeck (font : String) : Deck :=
  .ofRecord [("fonts", .obj [("body", .str font)])]

theorem not_findsRules :
    ¬ FindsRules RenderPolicy.keyed.deckClass (fontDeck "Arial /*") ∧
      ¬ FindsRules RenderPolicy.keyed.deckClass (fontDeck "Arial \"") ∧
      ¬ FindsRules RenderPolicy.keyed.deckClass (fontDeck "local(Arial") := by
  simp only [findsRules_iff]
  decide

end DeckPress.Style
