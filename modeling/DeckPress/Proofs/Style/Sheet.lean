import DeckPress.Proofs.Text.Silence
import DeckPress.Style.Sheet

/-!
What a stylesheet cannot contain. The class of a deck is made of the characters of names, what the
deck brings in has lost its unsafe characters, and the rest of the rules is fixed. So no tag starts
or ends in it.
-/

namespace DeckPress.Style

def Lacks (marks : List Char) (s : String) : Prop :=
  ∀ c ∈ marks, c ∉ s.toList

-- The instance is named, since a search may find the one that tries all characters.
instance (marks : List Char) (s : String) : Decidable (Lacks marks s) :=
  List.decidableBAll (fun c => c ∉ s.toList) marks

@[simp] theorem lacks_append {marks : List Char} {s t : String} :
    Lacks marks (s ++ t) ↔ Lacks marks s ∧ Lacks marks t := by
  simp only [Lacks, String.toList_append, List.mem_append, not_or]
  exact forall₂_and

theorem Lacks.subset {marks more : List Char} {s : String} (lacks : Lacks more s)
    (fewer : marks ⊆ more) : Lacks marks s :=
  fun c mark => lacks c (fewer mark)

theorem lacks_intercalate {marks : List Char} {separator : String}
    (separated : Lacks marks separator) {texts : List String}
    (all : ∀ s ∈ texts, Lacks marks s) : Lacks marks (separator.intercalate texts) :=
  fun c mark => Text.not_mem_intercalate (separated c mark) fun s member => all s member c mark

theorem lacks_safeText {marks : List Char} (stripped : marks.all isUnsafe = true)
    (value : Json) : Lacks marks (safeText value) := by
  intro c mark
  simp [safeText, List.all_eq_true.mp stripped c mark]

theorem isClassPart_of_mem {deckClass : ClassName} {c : Char}
    (member : c ∈ deckClass.text.toList) : isClassPart c = true := by
  have valid := deckClass.valid
  unfold isClassName at valid
  cases spelled : deckClass.text.toList with
  | nil =>
    rw [spelled] at member
    cases member
  | cons first rest =>
    rw [spelled] at valid member
    simp only [Bool.and_eq_true, List.all_eq_true] at valid
    rcases List.mem_cons.mp member with rfl | later
    · simp [isClassPart, valid.1]
    · exact valid.2 c later

theorem lacks_className {marks : List Char} (foreign : marks.any isClassPart = false)
    (deckClass : ClassName) : Lacks marks deckClass.text := by
  intro c mark member
  exact absurd (isClassPart_of_mem member) (List.any_eq_false.mp foreign c mark)

/-! ## Sheets -/

/-- What stands between selectors, properties and values. -/
def punctuation : List Char :=
  ['\n', ' ', '\x7b', '\x7d', ':', ';']

section Rules

variable {c : Char} (foreign : c ∉ punctuation)

include foreign

theorem not_mem_text {ds : Declarations}
    (each : ∀ d ∈ ds, c ∉ d.property.toList ∧ c ∉ d.value.toList) :
    c ∉ (Declarations.text ds).toList := by
  simp only [punctuation, List.mem_cons, List.not_mem_nil, or_false, not_or] at foreign
  refine Text.not_mem_intercalate (by simp [foreign]) ?_
  rw [List.forall_mem_map]
  intro d member
  obtain ⟨property, value⟩ := each d member
  simp [Declaration.text, property, value, foreign]

theorem not_mem_sheet {deckClass : ClassName} {deck : Deck}
    (each : ∀ r ∈ rules deckClass deck, c ∉ r.selector.toList ∧
      ∀ d ∈ r.declarations, c ∉ d.property.toList ∧ c ∉ d.value.toList) :
    c ∉ (sheet deckClass deck).toList := by
  have lines : ∀ r ∈ rules deckClass deck, c ∉ r.text.toList := by
    intro r present
    obtain ⟨selector, declarations⟩ := each r present
    have body := not_mem_text foreign declarations
    simp only [punctuation, List.mem_cons, List.not_mem_nil, or_false, not_or] at foreign
    simp [Rule.text, selector, body, foreign]
  simp only [punctuation, List.mem_cons, List.not_mem_nil, or_false, not_or] at foreign
  have joined : c ∉ (String.intercalate "\n" ((rules deckClass deck).map Rule.text)).toList :=
    Text.not_mem_intercalate (by simp [foreign]) (List.forall_mem_map.mpr lines)
  simp only [sheet, String.toList_append, List.mem_append, not_or]
  exact ⟨⟨by simp [foreign], joined⟩, by simp [foreign]⟩

end Rules

theorem all_sheet {p : Char → Bool} {deckClass : ClassName} {deck : Deck}
    (between : punctuation.all p = true)
    (parts : (rules deckClass deck).all (fun r => r.selector.toList.all p &&
      r.declarations.all fun d => d.property.toList.all p && d.value.toList.all p) = true) :
    (sheet deckClass deck).toList.all p = true := by
  simp only [List.all_eq_true, Bool.and_eq_true] at between parts ⊢
  intro c
  contrapose!
  intro fails
  refine not_mem_sheet (fun member => fails (between c member)) fun r present => ?_
  obtain ⟨selector, declarations⟩ := parts r present
  exact ⟨fun member => fails (selector c member), fun d own =>
    ⟨fun member => fails ((declarations d own).1 c member),
      fun member => fails ((declarations d own).2 c member)⟩⟩

/-! ## Tags -/

/-- A text in which no tag starts or ends. -/
abbrev Tagless : String → Prop :=
  Lacks ['<', '>']

theorem tagless_rules (deckClass : ClassName) (deck : Deck) :
    ∀ rule ∈ rules deckClass deck, Tagless rule.selector ∧
      ∀ d ∈ rule.declarations, Tagless d.property ∧ Tagless d.value := by
  have name : Tagless deckClass.text := lacks_className (by decide) deckClass
  have value (v : Json) : Tagless (safeText v) := lacks_safeText (by decide) v
  simp +decide [rules, fullBleed, name, value]

theorem tagless_sheet (deckClass : ClassName) (deck : Deck) : Tagless (sheet deckClass deck) := by
  intro c mark
  have foreign : c ∉ punctuation := by
    simp only [List.mem_cons, List.not_mem_nil, or_false] at mark
    rcases mark with rfl | rfl <;> decide
  refine not_mem_sheet foreign fun rule present => ?_
  obtain ⟨selector, declarations⟩ := tagless_rules deckClass deck rule present
  exact ⟨selector c mark, fun d member => ⟨(declarations d member).1 c mark,
    (declarations d member).2 c mark⟩⟩

end DeckPress.Style
