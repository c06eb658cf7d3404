import Mathlib
import DeckPress.Proofs.Style.Sheet
import DeckPress.Proofs.Text.Split

/-!
A stylesheet read back: rules that each end with a closing brace, and in a rule the selector, an
opening brace, and declarations that each end with a semicolon. Whatever a deck brings in, its
stylesheet reads as the rules it was made of, so only values can differ between two decks.
-/

namespace DeckPress

namespace Style

/-! ## Reading -/

/-- The pieces of a text that each end with a character, if nothing but blanks is left over. -/
def endedBy? (c : Char) (text : List Char) : Option (List (List Char)) :=
  let pieces := text.splitOn c
  if (pieces.getLastD []).all Text.isBlank then some pieces.dropLast else none

def trimmed (s : List Char) : String :=
  String.ofList (Text.trimBoth Text.isBlank s)

/-- A declaration is split at its first colon. -/
def declaration? (piece : List Char) : Option Declaration :=
  (Text.splitFirst? (· == ':') piece).map fun (property, value) => ⟨trimmed property, trimmed value⟩

def declarations? (body : List Char) : Option Declarations := do
  (← endedBy? ';' body).mapM declaration?

def rule? (piece : List Char) : Option Rule :=
  match piece.splitOn '\x7b' with
  | [selector, body] => (declarations? body).map (Rule.mk (trimmed selector))
  | _ => none

def rules? (css : String) : Option (List Rule) := do
  (← endedBy? '\x7d' css.toList).mapM rule?

/-! ## Reading what was written -/

theorem append_intercalate {separator : List Char} {c : Char} {pieces : List (List Char)}
    (filled : pieces ≠ []) (rest : List Char) :
    separator ++ separator.intercalate (pieces.map (· ++ [c])) ++ rest =
      [c].intercalate (pieces.map (separator ++ ·) ++ [rest]) := by
  induction pieces with
  | nil => exact absurd rfl filled
  | cons piece pieces ih =>
    cases pieces with
    | nil => simp
    | cons next pieces =>
      have later := ih (List.cons_ne_nil _ _)
      simp only [List.map_cons, List.cons_append, List.intercalate_cons_cons] at later ⊢
      simp only [← later, List.append_assoc]

theorem endedBy?_intercalate {separator : List Char} {c : Char} {pieces : List (List Char)}
    (filled : pieces ≠ []) (apart : c ∉ separator) (each : ∀ piece ∈ pieces, c ∉ piece)
    {rest : List Char} (behind : c ∉ rest) (blank : rest.all Text.isBlank = true) :
    endedBy? c (separator ++ separator.intercalate (pieces.map (· ++ [c])) ++ rest) =
      some (pieces.map (separator ++ ·)) := by
  have split : (separator ++ separator.intercalate (pieces.map (· ++ [c])) ++ rest).splitOn c =
      pieces.map (separator ++ ·) ++ [rest] := by
    rw [append_intercalate filled]
    refine List.splitOn_intercalate c ?_ (by simp)
    intro piece member
    rcases List.mem_append.mp member with written | last
    · obtain ⟨inner, present, rfl⟩ := List.mem_map.mp written
      simp [apart, each inner present]
    · rwa [List.mem_singleton.mp last]
  rw [endedBy?, split, List.getLastD_concat, if_pos blank, List.dropLast_concat]

theorem trimmed_append (before s after : List Char)
    (leading : before.all Text.isBlank = true) (trailing : after.all Text.isBlank = true) :
    trimmed (before ++ s ++ after) = trimmed s := by
  rw [List.all_eq_true] at leading trailing
  rw [trimmed, trimmed, Text.trimBoth_append leading trailing]

theorem mapM_eq_some_map {α β : Type} {f : α → Option β} {g : α → β} {xs : List α}
    (each : ∀ x ∈ xs, f x = some (g x)) : xs.mapM f = some (xs.map g) := by
  induction xs with
  | nil => rfl
  | cons x xs ih =>
    rw [List.forall_mem_cons] at each
    simp [each.1, ih each.2]

end Style

namespace Declaration

open Style

def Parted (d : Declaration) : Prop :=
  Lacks ['\x7b', '\x7d', ';', ':'] d.property ∧ trimmed d.property.toList = d.property ∧
    Lacks ['\x7b', '\x7d', ';'] d.value

instance (d : Declaration) : Decidable d.Parted :=
  inferInstanceAs (Decidable (_ ∧ _))

theorem Parted.of_value {property value : String}
    (name : Lacks ['\x7b', '\x7d', ';', ':'] property)
    (plain : trimmed property.toList = property) (content : Lacks ['\x7b', '\x7d', ';'] value) :
    Parted ⟨property, value⟩ :=
  ⟨name, plain, content⟩

def reading (d : Declaration) : Declaration :=
  { d with value := trimmed d.value.toList }

def inner (d : Declaration) : List Char :=
  d.property.toList ++ ':' :: ' ' :: d.value.toList

theorem toList_text (d : Declaration) : d.text.toList = d.inner ++ [';'] := by
  simp [text, inner]

theorem read_inner {d : Declaration} (parted : d.Parted) :
    declaration? (' ' :: d.inner) = some d.reading := by
  obtain ⟨property, plain, -⟩ := parted
  have split : Text.splitFirst? (· == ':') (' ' :: d.inner) =
      some (' ' :: d.property.toList, ' ' :: d.value.toList) := by
    refine Text.splitFirst?_append (s := ' ' :: d.property.toList) (by decide) ?_ _
    simp only [List.forall_mem_cons, beq_eq_false_iff_ne]
    exact ⟨by decide, fun x member same => property ':' (by decide) (same ▸ member)⟩
  have name := trimmed_append [' '] d.property.toList [] rfl rfl
  have value := trimmed_append [' '] d.value.toList [] rfl rfl
  simp only [List.append_nil, List.singleton_append] at name value
  simp only [declaration?, split, Option.map_some, name, plain, value, reading]

end Declaration

namespace Style

namespace Rule

def Parted (r : Rule) : Prop :=
  Lacks ['\x7b', '\x7d'] r.selector ∧ trimmed r.selector.toList = r.selector ∧
    r.declarations ≠ [] ∧ ∀ d ∈ r.declarations, d.Parted

def reading (r : Rule) : Rule :=
  { r with declarations := r.declarations.map Declaration.reading }

def body (r : Rule) : List Char :=
  ' ' :: (Declarations.text r.declarations).toList ++ [' ']

def inner (r : Rule) : List Char :=
  "    ".toList ++ r.selector.toList ++ ' ' :: '\x7b' :: r.body

theorem toList_text (r : Rule) : r.text.toList = r.inner ++ ['\x7d'] := by
  simp [text, inner, body]

theorem body_eq (r : Rule) : r.body = [' '] ++
    [' '].intercalate ((r.declarations.map Declaration.inner).map (· ++ [';'])) ++ [' '] := by
  simp [body, Declarations.text, String.toList_intercalate, Function.comp_def,
    Declaration.toList_text]

theorem read_body {r : Rule} (parted : r.Parted) :
    declarations? r.body = some r.reading.declarations := by
  obtain ⟨-, -, filled, each⟩ := parted
  have apart : ∀ piece ∈ r.declarations.map Declaration.inner, ';' ∉ piece := by
    rw [List.forall_mem_map]
    intro d member
    obtain ⟨property, -, value⟩ := each d member
    simp [Declaration.inner, property ';', value ';']
  rw [declarations?, body_eq,
    endedBy?_intercalate (by simpa using filled) (by decide) apart (by decide) rfl]
  simp only [Option.bind_eq_bind, Option.bind_some, List.map_map, List.mapM_map]
  exact mapM_eq_some_map fun d member => Declaration.read_inner (each d member)

theorem not_mem_body {r : Rule} (parted : r.Parted) {c : Char} (brace : c ∈ ['\x7b', '\x7d']) :
    c ∉ r.body := by
  obtain ⟨-, -, -, each⟩ := parted
  have declarations : Lacks ['\x7b', '\x7d'] (Declarations.text r.declarations) := by
    refine lacks_intercalate (by decide) ?_
    rw [List.forall_mem_map]
    intro d member
    obtain ⟨property, -, value⟩ := each d member
    have name : Lacks ['\x7b', '\x7d'] d.property := property.subset (by decide)
    have content : Lacks ['\x7b', '\x7d'] d.value := value.subset (by decide)
    simp +decide [Declaration.text, name, content]
  have space : c ≠ ' ' := by
    rintro rfl
    simp at brace
  simp [body, space, declarations c brace]

theorem read_inner {r : Rule} (parted : r.Parted) : rule? ('\n' :: r.inner) = some r.reading := by
  obtain ⟨selector, plain, -⟩ := id parted
  have split : ('\n' :: r.inner).splitOn '\x7b' =
      ["\n    ".toList ++ r.selector.toList ++ [' '], r.body] := by
    have written : '\n' :: r.inner = ['\x7b'].intercalate
        ["\n    ".toList ++ r.selector.toList ++ [' '], r.body] := by
      simp [inner]
    rw [written]
    refine List.splitOn_intercalate '\x7b' ?_ (by simp)
    simp only [List.forall_mem_cons]
    refine ⟨?_, not_mem_body parted (by decide), nofun⟩
    simpa using selector '\x7b' (by decide)
  have name := trimmed_append "\n    ".toList r.selector.toList [' '] rfl rfl
  simp only [rule?, split, name, plain, read_body parted, Option.map_some]
  rfl

end Rule

theorem rules?_lines {rs : List Rule} (filled : rs ≠ []) (parted : ∀ r ∈ rs, r.Parted) :
    rules? ("\n" ++ String.intercalate "\n" (rs.map Rule.text) ++ "\n  ") =
      some (rs.map Rule.reading) := by
  have written : ("\n" ++ String.intercalate "\n" (rs.map Rule.text) ++ "\n  ").toList =
      ['\n'] ++ ['\n'].intercalate ((rs.map Rule.inner).map (· ++ ['\x7d'])) ++ "\n  ".toList := by
    simp [String.toList_intercalate, Function.comp_def, Rule.toList_text]
  have apart : ∀ piece ∈ rs.map Rule.inner, '\x7d' ∉ piece := by
    rw [List.forall_mem_map]
    intro r member
    have selector := (parted r member).1 '\x7d' (by decide)
    simpa [Rule.inner, selector] using Rule.not_mem_body (parted r member) (by decide)
  rw [rules?, written,
    endedBy?_intercalate (by simpa using filled) (by decide) apart (by decide) rfl]
  simp only [Option.bind_eq_bind, Option.bind_some, List.map_map, List.mapM_map]
  exact mapM_eq_some_map fun r member => Rule.read_inner (parted r member)

/-! ## The rules of a deck -/

theorem trimmed_eq_self {s : String}
    (first : (s.toList.head?.all fun c => !Text.isBlank c) = true)
    (last : (s.toList.getLast?.all fun c => !Text.isBlank c) = true) :
    trimmed s.toList = s := by
  have kept : Text.trimBoth Text.isBlank s.toList = s.toList := by
    refine Text.trimBoth_eq_self ?_ ?_
    · simpa [Option.all_eq_true] using first
    · simpa [Option.all_eq_true] using last
  rw [trimmed, kept, String.ofList_toList]

theorem toNat_of_isClassPart {c : Char} (part : isClassPart c = true) :
    45 ≤ c.toNat ∧ c.toNat < 128 := by
  simp only [isClassPart, isClassStart, Char.isAlpha, Char.isUpper, Char.isLower, Char.isDigit,
    Bool.or_eq_true, Bool.and_eq_true, decide_eq_true_eq, beq_iff_eq, ge_iff_le,
    UInt32.le_iff_toNat_le] at part
  change ((((65 ≤ c.toNat ∧ c.toNat ≤ 90) ∨ (97 ≤ c.toNat ∧ c.toNat ≤ 122)) ∨ c = '_') ∨
    (48 ≤ c.toNat ∧ c.toNat ≤ 57)) ∨ c = '-' at part
  rcases part with ((letter | rfl) | digit) | rfl
  · omega
  · decide
  · omega
  · decide

theorem isBlank_of_isClassPart {c : Char} (part : isClassPart c = true) :
    Text.isBlank c = false := by
  have within := toNat_of_isClassPart part
  rw [Bool.eq_false_iff]
  simp only [Text.isBlank, Text.isWhiteSpace, ne_eq, Bool.or_eq_true, Bool.and_eq_true,
    decide_eq_true_eq, beq_iff_eq]
  omega

section

variable (deckClass : ClassName)

theorem trimmed_selector {ending : String}
    (last : (ending.toList.getLast?.all fun c => !Text.isBlank c) = true) :
    trimmed ("." ++ deckClass.text ++ ending).toList = "." ++ deckClass.text ++ ending := by
  refine trimmed_eq_self (by simp; decide) ?_
  have scope : ∀ c ∈ ("." ++ deckClass.text).toList, Text.isBlank c = false := by
    rw [String.toList_append]
    refine List.forall_mem_cons.mpr ⟨by decide, fun c member => ?_⟩
    exact isBlank_of_isClassPart (isClassPart_of_mem member)
  rw [String.toList_append, List.getLast?_append]
  cases ended : ending.toList.getLast? with
  | none =>
    rw [Option.none_or, Option.all_eq_true]
    intro c behind
    simp [scope c (List.mem_of_getLast? behind)]
  | some c => simpa [ended] using last

theorem parted_rule (ending : String) {ds : Declarations} (plain : Lacks ['\x7b', '\x7d'] ending)
    (last : (ending.toList.getLast?.all fun c => !Text.isBlank c) = true) (filled : ds ≠ [])
    (each : ∀ d ∈ ds, d.Parted) : Rule.Parted ⟨"." ++ deckClass.text ++ ending, ds⟩ := by
  refine ⟨?_, trimmed_selector deckClass last, filled, each⟩
  have name : Lacks ['\x7b', '\x7d'] deckClass.text := lacks_className (by decide) deckClass
  simp +decide [plain, name]

theorem parted_rules (deck : Deck) : ∀ r ∈ rules deckClass deck, r.Parted := by
  have stripped (v : Json) : Lacks ['\x7b', '\x7d', ';'] (safeText v) :=
    lacks_safeText (by decide) v
  have family : ∀ d ∈ ([⟨"font-family", safeText (entryOr deck.fontTable "body" "Arial") ++
      ", sans-serif"⟩] : Declarations), d.Parted := by
    refine List.forall_mem_singleton.mpr (.of_value (by decide) (by decide) ?_)
    simp +decide [stripped]
  have page : ∀ d ∈ ([⟨"width", safeText deck.slideSize.w.toJson ++
        safeText (.str deck.slideSize.unit)⟩,
      ⟨"height", safeText deck.slideSize.h.toJson ++ safeText (.str deck.slideSize.unit)⟩,
      ⟨"position", "relative"⟩, ⟨"overflow", "hidden"⟩, ⟨"isolation", "isolate"⟩,
      ⟨"background", safeText (entryOr deck.palette "bg" "#ffffff")⟩] : Declarations),
      d.Parted := by
    have joined (v w : Json) : Lacks ['\x7b', '\x7d', ';'] (safeText v ++ safeText w) :=
      lacks_append.mpr ⟨stripped v, stripped w⟩
    simp only [List.forall_mem_cons]
    exact ⟨.of_value (by decide) (by decide) (joined _ _),
      .of_value (by decide) (by decide) (joined _ _), by decide, by decide, by decide,
      .of_value (by decide) (by decide) (stripped _), nofun⟩
  have scope : Rule.Parted ⟨"." ++ deckClass.text,
      [⟨"font-family", safeText (entryOr deck.fontTable "body" "Arial") ++ ", sans-serif"⟩]⟩ := by
    simpa using parted_rule deckClass "" (by decide) rfl (by simp) family
  unfold rules
  simp only [List.forall_mem_cons (p := Rule.Parted)]
  refine ⟨parted_rule deckClass _ (by decide) rfl (by simp) (by decide), scope,
    parted_rule deckClass _ (by decide) rfl (by simp) page, ?_⟩
  -- The rules that are left bring in nothing of the deck.
  refine ⟨?_, ?_, ?_, ?_, ?_, ?_, ?_, ?_, ?_, nofun⟩ <;>
    exact parted_rule deckClass _ (by decide) rfl (by simp [fullBleed]) (by decide)

theorem rules?_sheet (deck : Deck) :
    rules? (sheet deckClass deck) = some ((rules deckClass deck).map Rule.reading) :=
  rules?_lines (List.cons_ne_nil _ _) (parted_rules deckClass deck)

/-! ## What depends on the deck -/

/-- A selector of nothing but what is inside an element of the class. -/
def Scoped (selector : String) : Prop :=
  selector = "." ++ deckClass.text ∨ ∃ within, selector = "." ++ deckClass.text ++ " " ++ within

/-- Where a deck brings in values: selectors and properties. -/
def themed : List (String × String) :=
  [("." ++ deckClass.text, "font-family"), ("." ++ deckClass.text ++ " .slide", "width"),
    ("." ++ deckClass.text ++ " .slide", "height"),
    ("." ++ deckClass.text ++ " .slide", "background")]

/-- Rules that differ at most in some values. -/
structure Rule.SameBeside (places : List (String × String)) (r s : Rule) : Prop where
  selector : r.selector = s.selector
  declarations : List.Forall₂ (fun d e => d.property = e.property ∧
    ((r.selector, d.property) ∈ places ∨ d.value = e.value)) r.declarations s.declarations

theorem Rule.SameBeside.refl (places : List (String × String)) (r : Rule) : r.SameBeside places r :=
  ⟨rfl, List.forall₂_same.mpr fun _ _ => ⟨rfl, Or.inr rfl⟩⟩

theorem Rule.SameBeside.reading {places : List (String × String)} {r s : Rule}
    (same : r.SameBeside places s) : r.reading.SameBeside places s.reading where
  selector := same.selector
  declarations := by
    simp only [Rule.reading, List.forall₂_map_left_iff, List.forall₂_map_right_iff]
    refine same.declarations.imp fun d e here => ⟨here.1, here.2.imp_right fun value => ?_⟩
    rw [Declaration.reading, Declaration.reading, value]

theorem rules_sameBeside (deck other : Deck) :
    List.Forall₂ (Rule.SameBeside (themed deckClass)) (rules deckClass deck)
      (rules deckClass other) := by
  have scope (v w : String) : Rule.SameBeside (themed deckClass)
      ⟨"." ++ deckClass.text, [⟨"font-family", v⟩]⟩
      ⟨"." ++ deckClass.text, [⟨"font-family", w⟩]⟩ := by
    refine ⟨rfl, .cons ⟨rfl, Or.inl ?_⟩ .nil⟩
    simp [themed]
  unfold rules
  refine .cons (.refl _ _) <| .cons (scope _ _) <| .cons ⟨rfl, ?_⟩ ?_
  · refine .cons ⟨rfl, ?_⟩ <| .cons ⟨rfl, ?_⟩ <| .cons ⟨rfl, .inr rfl⟩ <| .cons ⟨rfl, .inr rfl⟩ <|
      .cons ⟨rfl, .inr rfl⟩ <| .cons ⟨rfl, ?_⟩ .nil <;> exact .inl (by simp [themed])
  · exact List.forall₂_same.mpr fun r _ => .refl _ r

theorem scoped_rules (deck : Deck) : ∀ r ∈ rules deckClass deck, Scoped deckClass r.selector := by
  have within (inner : String) {ending : String} (spelled : " " ++ inner = ending) :
      Scoped deckClass ("." ++ deckClass.text ++ ending) :=
    Or.inr ⟨inner, by rw [← spelled, ← String.append_assoc]⟩
  simp only [rules, List.forall_mem_cons]
  exact ⟨within "*" rfl, Or.inl rfl, within ".slide" rfl, within ".background" rfl,
    within ".shape" rfl, within ".text-shape" rfl, within ".image-shape img" rfl,
    within ".list-shape" rfl, within ".list-shape ul" rfl, within ".list-shape li" rfl,
    within ".svg-shape svg" rfl, within ".svg-shape .text-shape" rfl,
    List.forall_mem_nil _⟩

theorem sheet_scoped (policy : RenderPolicy) (deck other : Deck) :
    Tagless (sheet policy.deckClass deck) ∧
      ∃ found changed, rules? (sheet policy.deckClass deck) = some found ∧
        rules? (sheet policy.deckClass other) = some changed ∧ found.length = 12 ∧
        (∀ r ∈ found, Scoped policy.deckClass r.selector) ∧
        List.Forall₂ (Rule.SameBeside (themed policy.deckClass)) found changed := by
  refine ⟨tagless_sheet policy.deckClass deck, _, _, rules?_sheet policy.deckClass deck,
    rules?_sheet policy.deckClass other, rfl, ?_, ?_⟩
  · rw [List.forall_mem_map]
    exact scoped_rules policy.deckClass deck
  · simp only [List.forall₂_map_left_iff, List.forall₂_map_right_iff]
    exact (rules_sameBeside policy.deckClass deck other).imp fun r s same => same.reading

end

end Style

end DeckPress
