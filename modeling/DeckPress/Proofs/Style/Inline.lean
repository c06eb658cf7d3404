import DeckPress.Proofs.Style.Reader
import DeckPress.Proofs.Text.Cutter
import DeckPress.Style.Background

/-!
The style of an element read back. Its declarations end at semicolons outside quotes, and in quotes
a backslash takes the meaning of the character behind it. Values are pasted between the colon and
the semicolon as they are, so a style reads as what it was made of exactly when none of its values
has a semicolon outside quotes or leaves a quote open.
-/

namespace DeckPress.Style

open Text

/-! ## Reading -/

inductive Quote where
  | single
  | double
  deriving DecidableEq

def Quote.char : Quote → Char
  | .single => '\''
  | .double => '"'

/-- Whether a reader is in quotes, and behind a backslash in them. -/
inductive Quoting where
  | plain
  | quoted (quote : Quote)
  | escaped (quote : Quote)
  deriving DecidableEq

def Quoting.step : Quoting → Char → Quoting
  | .plain, c =>
    if c = '\'' then .quoted .single else if c = '"' then .quoted .double else .plain
  | .quoted quote, c =>
    if c = '\\' then .escaped quote else if c = quote.char then .plain else .quoted quote
  | .escaped quote, _ => .quoted quote

/-- Text that ends at semicolons outside quotes. -/
def quotes : Cutter where
  State := Quoting
  start := .plain
  step? s c := if s = .plain ∧ c = ';' then none else some (s.step c)

def unspaced : List Char → List Char
  | ' ' :: rest => rest
  | text => text

def declared? (piece : List Char) : Option Declaration :=
  (splitFirst? (· == ':') piece).map fun (property, value) =>
    ⟨trimmed property, String.ofList (unspaced value)⟩

/-- The declarations that the style of an element reads as. -/
def styleDeclarations? (style : String) : Option Declarations :=
  quotes.read? declared? style.toList

/-- A value ends at the semicolon behind it, and not before. -/
def Contained (value : String) : Prop :=
  quotes.Closes value.toList ';'

instance (value : String) : Decidable (Contained value) :=
  inferInstanceAs (Decidable (quotes.Closes _ _))

/-! ## Declarations in a row -/

theorem stops_quotes_iff {s : Quoting} {c : Char} :
    quotes.step? s c = none ↔ s = .plain ∧ c = ';' := by
  simp [quotes]

theorem ends_quotes : quotes.EndsOnly ';' :=
  fun _ _ stops => (stops_quotes_iff.mp stops).2

theorem plain_quotes {c : Char} (plain : c ∉ ['"', '\'', ';']) :
    quotes.step? .plain c = some .plain := by
  simp only [List.mem_cons, List.not_mem_nil, or_false, not_or] at plain
  simp [quotes, Quoting.step, plain]

theorem contained_of_lacks {value : String} (plain : Lacks ['"', '\'', ';'] value) :
    Contained value :=
  ⟨.plain, Cutter.passes_of_plain fun c member => plain_quotes fun mark => plain c mark member, rfl⟩

def isHeadPart (c : Char) : Bool :=
  c == ' ' || c == ':' || isClassPart c

theorem not_mem_of_isHeadPart {marks : List Char} (foreign : marks.any isHeadPart = false)
    {c : Char} (part : isHeadPart c = true) : c ∉ marks :=
  fun mark => List.any_eq_false.mp foreign c mark part

def Named (d : Declaration) : Prop :=
  d.property.toList.all isClassPart = true

instance (d : Declaration) : Decidable (Named d) :=
  inferInstanceAs (Decidable (_ = true))

/-- What stands in front of a value. -/
def head (before : List Char) (d : Declaration) : List Char :=
  before ++ d.property.toList ++ [':', ' ']

section Head

variable {before : List Char} {d : Declaration} (blank : ∀ c ∈ before, c = ' ') (named : Named d)

include blank named

theorem isHeadPart_head : ∀ c ∈ head before d, isHeadPart c = true := by
  intro c member
  simp only [head, List.mem_append, List.mem_cons, List.not_mem_nil, or_false] at member
  rcases member with (space | letter) | rfl | rfl
  · rw [blank c space]
    rfl
  · have part : isClassPart c = true := List.all_eq_true.mp named c letter
    simp [isHeadPart, part]
  · rfl
  · rfl

theorem declared?_head (value : List Char) :
    declared? (head before d ++ value) = some ⟨d.property, String.ofList value⟩ := by
  have letters : ∀ c ∈ d.property.toList, isClassPart c = true := List.all_eq_true.mp named
  have split : splitFirst? (· == ':') (head before d ++ value) =
      some (before ++ d.property.toList, ' ' :: value) := by
    rw [head, List.append_assoc _ [':', ' '], List.cons_append, List.singleton_append]
    refine splitFirst?_append (by decide) ?_ _
    intro c member
    rw [beq_eq_false_iff_ne]
    rcases List.mem_append.mp member with space | letter
    · rw [blank c space]
      decide
    · rintro rfl
      exact absurd (letters _ letter) (by decide)
  have name : trimmed (before ++ d.property.toList) = d.property := by
    have around := trimmed_append before d.property.toList []
      (List.all_eq_true.mpr fun c space => blank c space ▸ rfl) rfl
    rw [List.append_nil] at around
    rw [around]
    apply trimmed_eq_self
    · rw [Option.all_eq_true]
      intro c first
      simp [isBlank_of_isClassPart (letters c (List.mem_of_mem_head? first))]
    · rw [Option.all_eq_true]
      intro c last
      simp [isBlank_of_isClassPart (letters c (List.mem_of_getLast? last))]
  rw [declared?, split, Option.map_some]
  simp only [name, unspaced]

/-- A declaration is read where its value ends at the semicolon behind it, and only there. -/
theorem read?_declared_cons {rest : List Char} {ds : Declarations} :
    quotes.read? declared? (before ++ d.text.toList ++ rest) = some (d :: ds) ↔
      Contained d.value ∧ quotes.read? declared? rest = some ds := by
  have plain : ∀ c ∈ head before d, c ∉ ['"', '\'', ';'] := fun c member =>
    not_mem_of_isHeadPart (by decide) (isHeadPart_head blank named c member)
  have passed : quotes.Passes .plain (head before d) .plain :=
    Cutter.passes_of_plain fun c member => plain_quotes (plain c member)
  have written : before ++ d.text.toList ++ rest =
      head before d ++ (d.value.toList ++ ';' :: rest) := by
    simp [head, Declaration.text]
  rw [written]
  constructor
  · intro found
    obtain ⟨piece, c, behind, same, closed, read, others⟩ := Cutter.of_read?_cons found
    obtain ⟨t, -, stops⟩ := id closed
    cases ends_quotes t c stops
    obtain ⟨more, rfl, after⟩ :=
      Cutter.part_of_not_mem same fun member => plain ';' member (by decide)
    rw [declared?_head blank named, Option.some_inj] at read
    have value : more = d.value.toList := by rw [← read, String.toList_ofList]
    subst value
    rw [List.append_cancel_left_eq, List.cons.injEq] at after
    exact ⟨passed.closes_iff.mp closed, after.2 ▸ others⟩
  · rintro ⟨closed, others⟩
    rw [← List.append_assoc, Cutter.read?_closes (passed.closes_iff.mpr closed), others,
      declared?_head blank named, String.ofList_toList]
    rfl

end Head

theorem append_intercalate_eq_flatMap {separator : List Char} {texts : List (List Char)}
    (filled : texts ≠ []) :
    separator ++ separator.intercalate texts = texts.flatMap (separator ++ ·) := by
  induction texts with
  | nil => exact absurd rfl filled
  | cons first texts ih =>
    cases texts with
    | nil => simp
    | cons next texts =>
      rw [List.intercalate_cons_cons, List.flatMap_cons, ← ih (List.cons_ne_nil _ _)]
      simp

section Texts

variable {ds : Declarations}

theorem read?_texts (named : ∀ d ∈ ds, Named d) :
    quotes.read? declared? (ds.flatMap fun d => [' '] ++ d.text.toList) = some ds ↔
      ∀ d ∈ ds, Contained d.value := by
  induction ds with
  | nil => exact iff_of_true (Cutter.read?_eq_nil_iff.mpr ⟨rfl, _, rfl⟩) nofun
  | cons d ds ih =>
    rw [List.forall_mem_cons] at named ⊢
    rw [List.flatMap_cons, read?_declared_cons (by simp) named.1, ih named.2]

/-- A style reads as the declarations it was made of exactly when every value is contained. -/
theorem styleDeclarations?_text (named : ∀ d ∈ ds, Named d) :
    styleDeclarations? (Declarations.text ds) = some ds ↔ ∀ d ∈ ds, Contained d.value := by
  cases ds with
  | nil => exact iff_of_true (Cutter.read?_eq_nil_iff.mpr ⟨rfl, _, rfl⟩) nofun
  | cons d ds =>
    -- The first declaration has no space in front of it.
    have written : (Declarations.text (d :: ds)).toList =
        [] ++ d.text.toList ++ ds.flatMap fun e => [' '] ++ e.text.toList := by
      have spaced : [' '] ++ [' '].intercalate ((d :: ds).map fun e => e.text.toList) = _ :=
        append_intercalate_eq_flatMap (by simp)
      simpa [Declarations.text, String.toList_intercalate, Function.comp_def, List.flatMap_map]
        using spaced
    rw [List.forall_mem_cons] at named ⊢
    rw [styleDeclarations?, written, read?_declared_cons (List.forall_mem_nil _) named.1,
      read?_texts named.2]

end Texts

/-! ## Images -/

def backslashesAtEnd (text : List Char) : Nat :=
  (text.reverse.takeWhile (· == '\\')).length

def behindBackslashes (n : Nat) : Quoting :=
  if Even n then .quoted .single else .escaped .single

theorem step_behindBackslashes (n : Nat) :
    (behindBackslashes n).step '\\' = behindBackslashes (n + 1) := by
  by_cases even : Even n <;> simp [behindBackslashes, Nat.even_add_one, even, Quoting.step]

theorem step_behindBackslashes_of_ne (n : Nat) {c : Char} (backslash : c ≠ '\\')
    (quote : c ≠ '\'') : (behindBackslashes n).step c = behindBackslashes 0 := by
  by_cases even : Even n <;>
    simp [behindBackslashes, even, Quoting.step, Quote.char, backslash, quote]

theorem passes_behindBackslashes {n m : Nat} {c : Char} {rest : List Char} {t : Quoting}
    (step : (behindBackslashes n).step c = behindBackslashes m)
    (passed : quotes.Passes (behindBackslashes m) rest t) :
    quotes.Passes (behindBackslashes n) (c :: rest) t := by
  have inside : behindBackslashes n ≠ .plain := by
    unfold behindBackslashes
    split <;> exact Quoting.noConfusion
  refine Cutter.passes_cons.mpr ⟨behindBackslashes m, ?_, passed⟩
  simp [quotes, inside, step]

/-- Inside the quotes of its address an image cannot close them, but its last backslash can take
the meaning of the quote behind it. -/
theorem passes_image (image : List Char) :
    quotes.Passes (behindBackslashes 0) (replaceChar '\'' "%27".toList image)
      (behindBackslashes (backslashesAtEnd image)) := by
  induction image using List.reverseRecOn with
  | nil => exact Cutter.passes_nil.mpr rfl
  | append_singleton image c ih =>
    rw [replaceChar_append]
    refine ih.trans ?_
    have ends : backslashesAtEnd (image ++ [c]) =
        if c = '\\' then backslashesAtEnd image + 1 else 0 := by
      by_cases backslash : c = '\\' <;> simp [backslashesAtEnd, backslash]
    rw [ends]
    split
    · rename_i backslash
      subst backslash
      exact passes_behindBackslashes (step_behindBackslashes _) (Cutter.passes_nil.mpr rfl)
    · rename_i backslash
      by_cases quote : c = '\''
      · subst quote
        have percent := step_behindBackslashes_of_ne (backslashesAtEnd image) (c := '%')
          (by decide) (by decide)
        exact passes_behindBackslashes percent rfl
      · have kept : replaceChar '\'' "%27".toList [c] = [c] := by simp [replaceChar, quote]
        rw [kept]
        exact passes_behindBackslashes (step_behindBackslashes_of_ne _ backslash quote)
          (Cutter.passes_nil.mpr rfl)

/-- The address of an image ends at its own closing quote exactly when the backslashes at the end of
the image come in pairs. -/
theorem contained_imageUrl (image : String) :
    Contained (imageUrl image) ↔ Even (backslashesAtEnd image.toList) := by
  have opened : quotes.Passes quotes.start "url('".toList (behindBackslashes 0) := rfl
  have written : (imageUrl image).toList =
      "url('".toList ++ (replaceChar '\'' "%27".toList image.toList ++ "')".toList) := by
    simp [imageUrl]
  unfold Contained Cutter.Closes
  simp only [written, opened.append_iff, (passes_image image.toList).append_iff]
  by_cases even : Even (backslashesAtEnd image.toList)
  · simp only [behindBackslashes, if_pos even]
    exact iff_of_true ⟨.plain, rfl, rfl⟩ even
  · simp only [behindBackslashes, if_neg even]
    refine iff_of_false ?_ even
    rintro ⟨t, passed, stops⟩
    cases Option.some.inj passed
    cases stops

theorem forall_mem_background_iff (b : Background) :
    (∀ d ∈ background b, Contained d.value) ↔ Contained (b.fill.getD "") ∧
      (b.image.getD "" ≠ "" → Even (backslashesAtEnd (b.image.getD "").toList) ∧
        Contained (b.imageFit.getD "")) := by
  have empty : Contained "" := by decide
  have cover : Contained "cover" := by decide
  have center : Contained "center" := by decide
  have single : Contained "no-repeat" := by decide
  unfold background
  dsimp only
  rw [List.forall_mem_append]
  refine and_congr ?_ ?_
  · split
    · rename_i unset
      simp [unset, empty]
    · exact List.forall_mem_singleton
  · split
    · rename_i unset
      simp [unset]
    · rename_i given
      simp only [List.forall_mem_cons, contained_imageUrl, center, single, ne_eq, given,
        not_false_eq_true, forall_const]
      split
      · rename_i unset
        simp [unset, empty, cover]
      · simp

end DeckPress.Style
