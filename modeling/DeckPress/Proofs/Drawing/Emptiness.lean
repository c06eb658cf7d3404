import DeckPress.Proofs.Drawing.Integrity
import DeckPress.Proofs.Entity.Lenient

/-!
When nothing is rendered. A document that is no object, slides that are no list and a version that
is refused leave nothing, as they should; and so does one more thing, a name of the deck that holds
half a pair. Nothing else in a document does, in particular no slide, layout, master or shape that
cannot be read, and no other field at fault.
-/

namespace DeckPress.Drawing

open Record

/-- Text, or a number that counts as its text. -/
def Spelled (value : Json) : Prop :=
  (∃ s, value = .str s) ∨ value.isNumber = true

/-- A version that is refused where versions are checked: it has a text, which is not empty and
does not begin like those of the first major version. -/
def Refused (version : Json) : Prop :=
  Spelled version ∧ version.plainText ≠ "" ∧ ¬ ['1', '.'] <+: version.plainText.toList

/-- Documents of which nothing is to be drawn. A null counts as absent. -/
inductive Undrawn (policy : RenderPolicy) : Json → Prop where
  | notObject {document : Json} (other : document.fields? = none) : Undrawn policy document
  | slides {fields : Record Json}
      (missing : ∀ items, get? (withoutNulls fields) "slides" ≠ some (.arr items)) :
      Undrawn policy (.obj fields)
  | version {fields : Record Json} {version : Json} (checked : policy.checkVersion = true)
      (given : get? (withoutNulls fields) "version" = some version) (refused : Refused version) :
      Undrawn policy (.obj fields)

/-- A deck in which some name, of a value that is not null, holds half a pair. -/
def HalfNamed (document : Json) : Prop :=
  ∃ fields, document = .obj fields ∧ (withoutNulls fields).keys.any Text.hasHalf = true

/-! ## Versions -/

theorem text_of_spelled {value : Json} (spelled : Spelled value) :
    Reader.text value = .ok value.plainText := by
  rcases spelled with ⟨s, rfl⟩ | number
  · rfl
  · cases value with
    | int n => simp [Reader.text, Json.plainText, Json.innerText]
    | float x => simp [Reader.text, Json.plainText, Json.innerText]
    | _ => simp [Json.isNumber] at number

theorem spelled_of_text {value : Json} {s : String} (read : Reader.text value = .ok s) :
    Spelled value := by
  cases value with
  | str t => exact Or.inl ⟨t, rfl⟩
  | int n => exact Or.inr rfl
  | float x => exact Or.inr rfl
  | _ => simp [Reader.text] at read

theorem supported_eq_false {version : Option String} :
    supported version = false ↔
      ∃ s, version = some s ∧ s ≠ "" ∧ ¬ ['1', '.'] <+: s.toList := by
  unfold supported
  split
  · simp
  · simp
  · rename_i s filled
    have other : s ≠ "" := fun same => filled (same ▸ rfl)
    simp [other, ← Bool.not_eq_true, List.isPrefixOf_iff_prefix]

theorem version_refused {r : Record Json} :
    supported (Deck.ofRecord r).version = false ↔
      ∃ version, r.get? "version" = some version ∧ Refused version := by
  have own : (Deck.ofRecord r).version =
      (r.get? "version").bind fun value => (Reader.text value).toOption :=
    value?_singleton r Reader.text "version"
  rw [supported_eq_false, own]
  constructor
  · rintro ⟨s, found, filled, foreign⟩
    obtain ⟨version, given, read⟩ := Option.bind_eq_some_iff.mp found
    cases outcome : Reader.text version with
    | error n => simp [outcome, Except.toOption] at read
    | ok t =>
      have spelled := spelled_of_text outcome
      have same : version.plainText = s := by
        rw [text_of_spelled spelled] at read
        exact Option.some.inj read
      exact ⟨version, given, spelled, same ▸ filled, same ▸ foreign⟩
  · rintro ⟨version, given, spelled, filled, foreign⟩
    refine ⟨version.plainText, ?_, filled, foreign⟩
    rw [given, Option.bind_some, text_of_spelled spelled]
    rfl

/-! ## Decks -/

/-- What is drawn of a deck with slides is never nothing, except for its version. -/
theorem deck?_eq_none {policy : RenderPolicy} {deck : Deck} :
    (deck? policy deck).outcome = .ok none ↔
      deck.slides = none ∨ (policy.checkVersion && !supported deck.version) = true := by
  rw [outcome_deck?]
  cases deck.slides with
  | none => simp
  | some slides =>
    cases policy.checkVersion && !supported deck.version with
    | true => simp
    | false =>
      dsimp only
      rw [if_neg Bool.false_ne_true]
      constructor
      · intro done
        obtain ⟨drawn, -, same⟩ := bind_eq_ok.mp done
        cases same
      · rintro (absent | refused)
        · cases absent
        · cases refused

theorem document?_eq_none {policy : RenderPolicy} {document : Json} :
    (document? policy document).outcome = .ok none ↔
      ∀ deck, Deck.reading? document = some deck →
        deck.slides = none ∨ (policy.checkVersion && !supported deck.version) = true := by
  rw [outcome_document?, Deck.outcome_readLeniently_eq]
  cases Deck.reading? document with
  | none =>
    refine iff_of_true rfl ?_
    intro deck none_read
    cases none_read
  | some deck =>
    refine deck?_eq_none.trans ?_
    simp

theorem render_eq_empty {policy : RenderPolicy} {document : Json} :
    (render policy document).outcome = .ok "" ↔ (document? policy document).outcome = .ok none := by
  rw [outcome_render]
  constructor
  · intro rendered
    obtain ⟨drawn, done, same⟩ := bind_eq_ok.mp rendered
    cases drawn with
    | none => exact done
    | some markup =>
      obtain ⟨deck, slides, rfl, -⟩ := document_fragment done
      exact absurd (Except.ok.inj same) (fragment_filled policy deck slides)
  · intro nothing
    exact bind_eq_ok.mpr ⟨none, nothing, rfl⟩

/-- The empty text is rendered exactly of the documents of which nothing is to be drawn, and of
those in which half a pair stands in a name of the deck. -/
theorem render_eq_empty_iff (policy : RenderPolicy) (document : Json) :
    (render policy document).outcome = .ok "" ↔ Undrawn policy document ∨ HalfNamed document := by
  rw [render_eq_empty, document?_eq_none]
  constructor
  · intro nothing
    cases document with
    | obj fields =>
      cases whole : (withoutNulls fields).keys.any Text.hasHalf with
      | true => exact Or.inr ⟨fields, rfl, whole⟩
      | false =>
        refine Or.inl ?_
        by_cases listed : ∃ items, get? (withoutNulls fields) "slides" = some (.arr items)
        · obtain ⟨items, given⟩ := listed
          have read : Deck.reading? (.obj fields) = some (Deck.ofRecord (withoutNulls fields)) := by
            simp [Deck.reading?, whole, given]
          rcases nothing _ read with absent | refused
          · rw [Deck.slides_ofRecord.mpr given] at absent
            cases absent
          · simp only [Bool.and_eq_true, Bool.not_eq_true'] at refused
            obtain ⟨version, found, refused_version⟩ := version_refused.mp refused.2
            exact .version refused.1 found refused_version
        · exact .slides fun items given => listed ⟨items, given⟩
    | _ => exact Or.inl (.notObject rfl)
  · rintro (undrawn | ⟨fields, rfl, broken⟩) deck read
    · obtain ⟨fields, rfl, -, rfl⟩ := Deck.reading?_eq_some read
      cases undrawn with
      | notObject other => cases other
      | slides missing =>
        refine Or.inl (Option.eq_none_iff_forall_ne_some.mpr ?_)
        intro items found
        exact missing items (Deck.slides_ofRecord.mp found)
      | version checked given refused =>
        refine Or.inr ?_
        rw [checked, version_refused.mpr ⟨_, given, refused⟩]
        rfl
    · simp [Deck.reading?, broken] at read

/-! A deck without slides to draw, and with one more name that holds half a pair. -/

def halfName : String :=
  String.ofList (Text.Glyph.half 0xDC00).kept

def halfNamedDeck : Record Json :=
  [(halfName, .int 1), ("slides", .arr [])]

theorem render_halfNamed_empty :
    (render .keyed (.obj halfNamedDeck)).outcome = .ok "" ∧
    ¬ Undrawn .keyed (.obj halfNamedDeck) := by
  have broken : (withoutNulls halfNamedDeck).keys.any Text.hasHalf = true := by decide
  have slides : get? (withoutNulls halfNamedDeck) "slides" = some (.arr []) := by rfl
  have version : get? (withoutNulls halfNamedDeck) "version" = none := by rfl
  have unread : Deck.reading? (.obj halfNamedDeck) = none := by
    simp [Deck.reading?, broken]
  constructor
  · rw [render_eq_empty, document?_eq_none, unread]
    intro deck none_read
    cases none_read
  · intro undrawn
    cases undrawn with
    | notObject other => cases other
    | slides missing => exact missing [] slides
    | version checked given refused =>
      rw [version] at given
      cases given

end DeckPress.Drawing
