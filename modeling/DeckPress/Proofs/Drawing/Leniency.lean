import DeckPress.Proofs.Drawing.Outcome

/-!
Decks with fields at fault. A deck is refused for its slides alone, provided that each error of a
reading tells the field it stands under. Every other deck holds, field by field, what is read of the
value that is given, or the default where that value is at fault; so a field at fault counts as
absent, whatever the other ones hold, and the second reading has nothing left to refuse.
-/

namespace DeckPress

open Record

/-- Each error of a refusal tells the field that it stands under. -/
def Refusal.Located : Refusal → Prop
  | .fields _ => True
  | .notRecord | .brokenName => False

/-- What a field holds for the value that is given: what is read of it, and the default if it is at
fault or there is none. -/
structure Holds {α : Type} (reader : Reader α) (default : α) (given : Option Json) (held : α) :
    Prop where
  absent : given = none → held = default
  valid : ∀ value a, given = some value → reader value = .ok a → held = a
  invalid : ∀ value n, given = some value → reader value = .error n → held = default

section Holds

variable {α : Type} (reader : Reader α) (r : Record Json) (name : String)

theorem holds_getD (default : α) :
    Holds reader default (get? r name) ((r.value? reader [name]).getD default) := by
  rw [value?_singleton]
  constructor
  · intro absent
    rw [absent]
    rfl
  · intro value a given read
    rw [given, Option.bind_some, read]
    rfl
  · intro value n given refused
    rw [given, Option.bind_some, refused]
    rfl

variable {reader} in
theorem holds_optional {n : Nat} (refused : reader .null = .error n) :
    Holds (Reader.optional reader) none (get? r name) (r.value? reader [name]) := by
  rw [value?_singleton]
  constructor
  · intro absent
    rw [absent]
    rfl
  · intro value a given read
    rw [given, Option.bind_some]
    rcases eq_or_ne value .null with rfl | filled
    · cases read
      rw [refused]
      rfl
    · rw [Reader.optional_of_ne reader filled] at read
      obtain ⟨b, own, rfl⟩ := map_eq_ok.mp read
      rw [own]
      rfl
  · intro value n given fault
    rw [given, Option.bind_some]
    rcases eq_or_ne value .null with rfl | filled
    · cases fault
    · rw [Reader.optional_of_ne reader filled, map_eq_error] at fault
      rw [fault]
      rfl

end Holds

namespace Deck

structure Fieldwise (given : Record Json) (deck : Deck) : Prop where
  id : Holds (Reader.optional Reader.text) none (get? given "id") deck.id
  version : Holds (Reader.optional Reader.text) none (get? given "version") deck.version
  slideSize : Holds (Reader.entity SlideSize.read) ⟨.int 1280, .int 720, "px"⟩
    (get? given "slide_size") deck.slideSize
  colors : Holds Reader.table [] (get? given "colors") deck.colors
  fonts : Holds Reader.table [] (get? given "fonts") deck.fonts
  theme : Holds (Reader.entity Theme.read) ⟨[], []⟩ (get? given "theme") deck.theme
  layouts : Holds (Reader.optional Reader.collection) none (get? given "layouts") deck.layouts
  masters : Holds Reader.list [] (get? given "masters") deck.masters
  shapes : Holds (Reader.optional Reader.collection) none (get? given "shapes") deck.shapes
  bg : Holds (Reader.optional Reader.table) none (get? given "bg") deck.bg
  slides : Holds (Reader.optional Reader.list) none (get? given "slides") deck.slides

theorem fieldwise_ofRecord (r : Record Json) : Fieldwise r (ofRecord r) where
  id := holds_optional r "id" rfl
  version := holds_optional r "version" rfl
  slideSize := holds_getD (Reader.entity SlideSize.read) r "slide_size" _
  colors := holds_getD Reader.table r "colors" []
  fonts := holds_getD Reader.table r "fonts" []
  theme := holds_getD (Reader.entity Theme.read) r "theme" _
  layouts := holds_optional r "layouts" rfl
  masters := holds_getD Reader.list r "masters" []
  shapes := holds_optional r "shapes" rfl
  bg := holds_optional r "bg" rfl
  slides := holds_optional r "slides" rfl

/-- The slides are given, and they are no list. -/
def Unlisted (entries : Record Json) : Prop :=
  ∃ value, get? (withoutNulls entries) "slides" = some value ∧ ∀ items, value ≠ .arr items

/-- What is given for a field is at fault. -/
def Invalid (entries : Record Json) (name : String) : Prop :=
  ∃ field ∈ fields, field.spellings = [name] ∧
    ∃ value, get? (withoutNulls entries) name = some value ∧ field.faults value ≠ 0

section Located

variable {entries : Record Json}

theorem whole_of_located
    (located : ∀ refusal, read (.obj entries) = .error refusal → refusal.Located) :
    (withoutNulls entries).keys.any Text.hasHalf = false := by
  by_contra torn
  rw [Bool.not_eq_false] at torn
  have refused : read (.obj entries) = .error .brokenName := by simp [read, readEntity, torn]
  exact located _ refused

theorem reading?_eq_none (whole : (withoutNulls entries).keys.any Text.hasHalf = false) :
    reading? (.obj entries) = none ↔ Unlisted entries := by
  rw [reading?_eq whole, Unlisted, ← slides_faulty]
  split
  · rename_i dropped
    exact iff_of_true rfl dropped
  · rename_i kept
    exact iff_of_false nofun kept

/-- The message about a second reading that is refused is never written. -/
theorem message_of_readLeniently (whole : (withoutNulls entries).keys.any Text.hasHalf = false)
    {message : Message}
    (written : message ∈ (readLeniently (.obj entries) : Trace NumberError _).messages) (n : Nat) :
    message.text ≠ "Unreadable deck: " ++ toString n ++ " invalid field(s)" := by
  rw [readLeniently_eq whole] at written
  dsimp only at written
  intro same
  split at written
  · cases written
  · split at written
    · have own : message = ⟨.warning, "Unreadable deck: slides are missing or invalid"⟩ :=
        List.mem_singleton.mp written
      have last := congrArg (fun text : String => text.toList.getLast?) (own ▸ same)
      simp [List.getLast?_cons, List.getLast?_append] at last
    · have own : message = ⟨.warning, "Ignoring invalid deck field(s): " ++
          String.intercalate ", " (sortedNames (Field.faulty fields (withoutNulls entries)))⟩ :=
        List.mem_singleton.mp written
      have first := congrArg (fun text : String => text.toList.head?) (own ▸ same)
      simp at first

end Located

end Deck

namespace Drawing

/-- A deck is left unread exactly for slides that are no list. Otherwise each of its fields holds
what is given for it, or its default; the second reading is never refused; and a field at fault
other than the slides might as well be absent. -/
theorem readLeniently_fieldwise (entries : Record Json)
    (located : ∀ refusal, Deck.read (.obj entries) = .error refusal → refusal.Located) :
    ((Deck.readLeniently (.obj entries) : Trace NumberError (Option Deck)).outcome = .ok none ↔
      Deck.Unlisted entries) ∧
    (¬ Deck.Unlisted entries → ∃ deck,
      (Deck.readLeniently (.obj entries) : Trace NumberError (Option Deck)).outcome =
        .ok (some deck) ∧ Deck.Fieldwise (withoutNulls entries) deck) ∧
    (∀ refusal, Deck.read (.obj entries) = .error refusal →
      Returns (Deck.read (.obj (dropping refusal.names entries)))) ∧
    (∀ message ∈ (Deck.readLeniently (.obj entries) : Trace NumberError (Option Deck)).messages,
      ∀ n : Nat, message.text ≠ "Unreadable deck: " ++ toString n ++ " invalid field(s)") ∧
    ∀ (policy : RenderPolicy) (names : List String),
      (∀ name ∈ names, name ≠ "slides" ∧ Deck.Invalid entries name) →
      (render policy (.obj (dropping names entries))).outcome =
        (render policy (.obj entries)).outcome := by
  have whole := Deck.whole_of_located located
  rw [Deck.outcome_readLeniently_eq, Except.ok.injEq, Deck.reading?_eq_none whole]
  refine ⟨Iff.rfl, ?_, ?_, fun _ written n => Deck.message_of_readLeniently whole written n, ?_⟩
  · intro listed
    rw [Deck.reading?_eq whole, if_neg (fun dropped => listed (Deck.slides_faulty.mp dropped))]
    exact ⟨_, rfl, Deck.fieldwise_ofRecord _⟩
  · intro refusal refused
    rw [Deck.names_of_read whole refused]
    exact ⟨_, Deck.read_sound whole⟩
  · intro policy names invalid
    have faulty : ∀ name ∈ names, name ∈ Field.faulty Deck.fields (withoutNulls entries) :=
      fun name member => (Field.mem_faulty Deck.plain_fields).mpr (invalid name member).2
    have kept : "slides" ∉ names := fun member => (invalid "slides" member).1 rfl
    rw [outcome_render, outcome_render, outcome_document?, outcome_document?,
      Deck.outcome_readLeniently_eq, Deck.outcome_readLeniently_eq,
      Deck.reading?_dropping whole faulty kept]

/-! A deck in which four fields are at fault at once, two of them inside of what is given. -/

def patchyDeck : Record Json :=
  [("id", .arr []), ("version", .str "1.2"), ("colors", .null),
    ("slide_size", .obj [("w", .obj [])]), ("theme", .obj [("colors", .int 1)]),
    ("layouts", .int 2), ("slides", .arr [])]

def soundDeck : Record Json :=
  [("version", .str "1.2"), ("colors", .null), ("slides", .arr [])]

theorem read_patchy : Deck.read (.obj patchyDeck) =
    .error (.fields [("id", 1), ("slide_size", 3), ("theme", 1), ("layouts", 2)]) :=
  rfl

/-- Each of the errors tells its field, so the valid fields are kept and the other ones count as
absent. -/
theorem readLeniently_patchy :
    (∀ refusal, Deck.read (.obj patchyDeck) = .error refusal → refusal.Located) ∧
    (∃ deck, (Deck.readLeniently (.obj patchyDeck) : Trace NumberError (Option Deck)).outcome =
        .ok (some deck) ∧ deck.id = none ∧ deck.version = some "1.2" ∧ deck.colors = [] ∧
      deck.slideSize = ⟨.int 1280, .int 720, "px"⟩ ∧ deck.theme = ⟨[], []⟩ ∧
      deck.slides = some []) ∧
    (render .keyed (.obj soundDeck)).outcome = (render .keyed (.obj patchyDeck)).outcome := by
  have located : ∀ refusal, Deck.read (.obj patchyDeck) = .error refusal → refusal.Located := by
    intro refusal refused
    cases read_patchy.symm.trans refused
    trivial
  obtain ⟨-, read, -, -, absent⟩ := readLeniently_fieldwise patchyDeck located
  refine ⟨located, ?_, ?_⟩
  · have listed : ¬ Deck.Unlisted patchyDeck := by
      rintro ⟨value, given, other⟩
      cases given
      exact other [] rfl
    obtain ⟨deck, reading, holds⟩ := read listed
    exact ⟨deck, reading, holds.id.invalid _ _ rfl rfl, holds.version.valid _ _ rfl rfl,
      holds.colors.absent rfl, holds.slideSize.invalid _ _ rfl rfl, holds.theme.invalid _ _ rfl rfl,
      holds.slides.valid _ _ rfl rfl⟩
  · refine absent .keyed ["id", "slide_size", "theme", "layouts"] ?_
    intro name member
    have faulty : name ∈ Field.faulty Deck.fields (withoutNulls patchyDeck) :=
      Deck.names_of_read rfl read_patchy ▸ member
    refine ⟨?_, (Field.mem_faulty Deck.plain_fields).mp faulty⟩
    rintro rfl
    exact absurd member (by decide)

end Drawing

end DeckPress
