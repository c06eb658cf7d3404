import DeckPress.Drawing.Slide
import DeckPress.Proofs.Cascade.Override
import DeckPress.Proofs.Entity.Reading

/-!
Fields with two spellings. Scopes are laid over each other by the names that their authors wrote,
and only the merged record is read; there one of the two spellings is preferred. So a more
specific scope decides a field only if it uses the preferred spelling, or if no value is left
under that one below it.
-/

namespace DeckPress

open Record

inductive Doubled where
  | font
  | size
  | weight
  | textFill
  | tip
  | stem
  deriving DecidableEq, Repr

namespace Doubled

def preferred : Doubled → String
  | font => "text_font"
  | size => "text_size"
  | weight => "text_weight"
  | textFill => "text_color"
  | tip => "tipSize"
  | stem => "stemSize"

def other : Doubled → String
  | font => "font_family"
  | size => "font_size"
  | weight => "font_weight"
  | textFill => "color"
  | tip => "tip_size"
  | stem => "stem_size"

def validated : Doubled → Json → Option Json
  | font, j | textFill, j => (Reader.text j).toOption.map .str
  | size, j | weight, j | tip, j | stem, j => (Reader.amount j).toOption.map Amount.toJson

def value : Doubled → Shape → Option Json
  | font, s => s.font.map .str
  | size, s => s.size.map Amount.toJson
  | weight, s => s.weight.map Amount.toJson
  | textFill, s => s.textFill.map .str
  | tip, s => s.tipSize.map Amount.toJson
  | stem, s => s.stemSize.map Amount.toJson

/-- The value that a record gives the field: the one under the preferred spelling, if there is
one. -/
def chosen (field : Doubled) (record : Record Json) : Option Json :=
  (Json.given? record field.preferred).or (Json.given? record field.other)

end Doubled

/-! ## Reading a doubled field -/

theorem Record.value?_pair {α : Type} (r : Record Json) (reader : Reader α) (name other : String) :
    r.value? reader [name, other] =
      ((r.get? name).or (r.get? other)).bind fun value => (reader value).toOption := by
  cases first : r.get? name with
  | some value => simp [value?, pick?, first]
  | none =>
    cases second : r.get? other <;> simp [value?, pick?, first, second]

theorem bind_or_bind {α : Type} {reader : Reader α} {a b : Option Json}
    (clean : ∀ value, a = some value → ∃ x, reader value = .ok x) :
    (a.bind fun value => (reader value).toOption).or (b.bind fun value => (reader value).toOption) =
      (a.or b).bind fun value => (reader value).toOption := by
  cases a with
  | none => rfl
  | some value =>
    obtain ⟨x, read⟩ := clean value rfl
    simp [read, Except.toOption]

theorem Record.value?_or_value? {α : Type} {r : Record Json} {reader : Reader α}
    {name other : String} (counts : reader.Counts) (clean : Field.faultsOf Shape.fields r = [])
    (declared : Field.may [name] reader ∈ Shape.fields ∧ Field.may [other] reader ∈ Shape.fields) :
    (r.value? reader [name]).or (r.value? reader [other]) =
        ((r.get? name).or (r.get? other)).bind (fun value => (reader value).toOption) ∧
      ∀ value, (r.get? name).or (r.get? other) = some value → ∃ x, reader value = .ok x := by
  have first : ∀ value, r.get? name = some value → ∃ x, reader value = .ok x := by
    intro value found
    exact Field.value_of_clean clean counts declared.1 (by rw [pick?_singleton, found]; rfl)
  have second : ∀ value, r.get? other = some value → ∃ x, reader value = .ok x := by
    intro value found
    exact Field.value_of_clean clean counts declared.2 (by rw [pick?_singleton, found]; rfl)
  refine ⟨by rw [value?_singleton, value?_singleton, bind_or_bind first], ?_⟩
  intro value found
  rcases Option.or_eq_some_iff.mp found with here | ⟨_, there⟩
  · exact first value here
  · exact second value there

theorem Record.value?_spellings {α : Type} {r : Record Json} {reader : Reader α}
    {name other : String} (counts : reader.Counts) (clean : Field.faultsOf Shape.fields r = [])
    (declared : Field.may [name, other] reader ∈ Shape.fields) :
    r.value? reader [name, other] =
        ((r.get? name).or (r.get? other)).bind (fun value => (reader value).toOption) ∧
      ∀ value, (r.get? name).or (r.get? other) = some value → ∃ x, reader value = .ok x := by
  refine ⟨value?_pair r reader name other, ?_⟩
  intro value found
  cases first : r.get? name with
  | some known =>
    have same : known = value := by simpa [first] using found
    exact Field.value_of_clean clean counts declared
      (show r.pick? [name, other] = some (name, value) by simp [pick?, first, same])
  | none =>
    have second : r.get? other = some value := by simpa [first] using found
    exact Field.value_of_clean clean counts declared
      (show r.pick? [name, other] = some (other, value) by simp [pick?, first, second])

theorem map_reading {α : Type} {reader : Reader α} (shown : α → Json) {taken : Option α}
    {given : Option Json}
    (read : taken = given.bind (fun value => (reader value).toOption) ∧
      ∀ value, given = some value → ∃ x, reader value = .ok x) :
    taken.map shown = given.bind (fun value => (reader value).toOption.map shown) ∧
      ∀ value, given = some value → ((reader value).toOption.map shown).isSome = true := by
  refine ⟨by rw [read.1, Option.map_bind]; rfl, ?_⟩
  intro value found
  obtain ⟨x, ok⟩ := read.2 value found
  rw [ok]
  rfl

/-- A shape is drawn with what its record gives a field, whichever way it is spelled. -/
theorem Doubled.value_of_read {record : Record Json} {shape : Shape}
    (distinct : Distinct record) (read : Shape.read (.obj record) = .ok shape) (field : Doubled) :
    field.value shape = (field.chosen record).bind field.validated ∧
      ∀ value, field.chosen record = some value → (field.validated value).isSome = true := by
  obtain ⟨clean, rfl⟩ := readEntity_ok read
  rw [chosen, ← get?_withoutNulls distinct, ← get?_withoutNulls distinct]
  cases field with
  | font => exact map_reading .str (value?_or_value? Reader.counts_text clean
      ⟨by simp [Shape.fields], by simp [Shape.fields]⟩)
  | size => exact map_reading Amount.toJson (value?_or_value? Reader.counts_amount clean
      ⟨by simp [Shape.fields], by simp [Shape.fields]⟩)
  | weight => exact map_reading Amount.toJson (value?_or_value? Reader.counts_amount clean
      ⟨by simp [Shape.fields], by simp [Shape.fields]⟩)
  | textFill => exact map_reading .str (value?_or_value? Reader.counts_text clean
      ⟨by simp [Shape.fields], by simp [Shape.fields]⟩)
  | tip => exact map_reading Amount.toJson (value?_spellings Reader.counts_amount clean
      (by simp [Shape.fields, Shape.tipSpellings]))
  | stem => exact map_reading Amount.toJson (value?_spellings Reader.counts_amount clean
      (by simp [Shape.fields, Shape.stemSpellings]))

/-! ## Spellings across scopes -/

namespace Drawing

/-- The layers of a shape on a slide: the deck, the master, the layout and the slide, then the
slide's patches. -/
def layers (deck : Deck) (found : Resolved) (slide : Slide) (id : String) : List (Record Json) :=
  Cascade.layersOf id (scopes deck found slide) slide.overrides

/-- A layer is the most specific one that gives a field, and it uses one spelling only. -/
structure Decides (field : Doubled) (layer : Record Json) (upper : List (Record Json))
    (spelling : String) (value : Json) : Prop where
  silent : ∀ above ∈ upper, above.get? field.preferred = none ∧ above.get? field.other = none
  single : spelling = field.preferred ∧ layer.get? field.other = none ∨
    spelling = field.other ∧ layer.get? field.preferred = none
  given : layer.get? spelling = some value
  notNull : value.isNull = false

/-- What less specific layers leave under the preferred spelling. -/
def leftOver (field : Doubled) (lower : List (Record Json)) : Option Json :=
  (Cascade.top? lower field.preferred).filter fun value => !value.isNull

theorem top?_of_silent {upper : List (Record Json)} {name : String}
    (silent : ∀ above ∈ upper, above.get? name = none) : Cascade.top? upper name = none := by
  rw [Cascade.top?, List.findSome?_eq_none_iff]
  intro layer member
  exact silent layer (List.mem_reverse.mp member)

theorem top?_split {lower upper : List (Record Json)} {name : String}
    (silent : ∀ above ∈ upper, above.get? name = none) (layer : Record Json) :
    Cascade.top? (lower ++ layer :: upper) name =
      (layer.get? name).or (Cascade.top? lower name) := by
  have order : lower ++ layer :: upper = (lower ++ [layer]) ++ upper := by simp
  rw [order, Cascade.top?_append, top?_of_silent silent, Option.none_or, Cascade.top?_append,
    Cascade.top?_singleton]

theorem chosen_of_decides {field : Doubled} {lower upper : List (Record Json)}
    {layer record : Record Json} {spelling : String} {value : Json}
    (decides : Decides field layer upper spelling value)
    (laid : ∀ name, record.get? name = Cascade.top? (lower ++ layer :: upper) name) :
    field.chosen record =
      if spelling = field.preferred then some value
      else (leftOver field lower).or (some value) := by
  -- Of both names, only this layer and the ones below it have anything to say.
  have preferred := (laid field.preferred).trans
    (top?_split (fun above member => (decides.silent above member).1) layer)
  have other := (laid field.other).trans
    (top?_split (fun above member => (decides.silent above member).2) layer)
  have notNull := decides.notNull
  rw [Doubled.chosen, Json.given?_eq, Json.given?_eq, preferred, other]
  rcases decides.single with ⟨rfl, absent⟩ | ⟨rfl, absent⟩
  · simp [decides.given, notNull]
  · have apart : field.other ≠ field.preferred := by cases field <;> decide
    simp [decides.given, absent, apart, leftOver, Option.filter_some, notNull]

/-- The most specific layer that gives a field decides it when it uses the preferred spelling, or
when nothing is left under that one below it. Otherwise what is left there is drawn. -/
theorem value_of_decides {deck : Deck} {found : Resolved} {slide : Slide} {id : String}
    {record : Record Json} {shape : Shape}
    (known : (shapesOf deck found slide).get? id = some record)
    (read : Shape.read (.obj record) = .ok shape)
    {field : Doubled} {lower upper : List (Record Json)} {layer : Record Json}
    {spelling : String} {value : Json}
    (split : layers deck found slide id = lower ++ layer :: upper)
    (decides : Decides field layer upper spelling value) :
    (spelling = field.preferred ∨ leftOver field lower = none →
      (field.validated value).isSome = true ∧ field.value shape = field.validated value) ∧
    ∀ old, spelling = field.other → leftOver field lower = some old →
      (field.validated old).isSome = true ∧ field.value shape = field.validated old := by
  have laid : ∀ name, record.get? name = Cascade.top? (lower ++ layer :: upper) name := by
    intro name
    rw [← split]
    exact Cascade.get?_of_layers known name
  have drawn := Doubled.value_of_read (Cascade.distinct_of_layers known) read field
  have chosen := chosen_of_decides decides laid
  constructor
  · intro own
    have taken : field.chosen record = some value := by
      rw [chosen]
      rcases own with preferred | empty
      · rw [if_pos preferred]
      · rw [empty, Option.none_or, ite_self]
    rw [taken] at drawn
    exact ⟨drawn.2 value rfl, drawn.1⟩
  · intro old other left
    have apart : ¬ spelling = field.preferred := by
      rw [other]
      cases field <;> decide
    have taken : field.chosen record = some old := by
      rw [chosen, if_neg apart, left, Option.some_or]
    rw [taken] at drawn
    exact ⟨drawn.2 old rfl, drawn.1⟩

/-! A layout sets a font under the preferred spelling, and a slide under the other one. -/

def fontLayout : Record Json :=
  [("shapes", .obj [("title", .obj [("text_font", .str "Arial")])])]

def fontDeck : Deck :=
  Deck.ofRecord [("layouts", .obj [("plain", .obj fontLayout)])]

def fontSlide : Slide :=
  Slide.ofRecord [("layout", .str "plain"),
    ("shapes", .obj [("title", .obj [("font_family", .str "Georgia")])])]

def fontTitle : Record Json :=
  [("text_font", .str "Arial"), ("font_family", .str "Georgia")]

/-- The slide's font loses, though no other layer is as specific. -/
theorem value_of_decides_font :
    (shapesOf fontDeck ⟨none, Layout.ofRecord fontLayout⟩ fontSlide).get? "title" =
      some fontTitle ∧
    leftOver .font [[], [], [("text_font", .str "Arial")]] = some (.str "Arial") ∧
    Doubled.font.value (Shape.ofRecord fontTitle) = Doubled.font.validated (.str "Arial") := by
  have known : (shapesOf fontDeck ⟨none, Layout.ofRecord fontLayout⟩ fontSlide).get? "title" =
      some fontTitle := rfl
  have read : Shape.read (.obj fontTitle) = .ok (Shape.ofRecord fontTitle) := rfl
  have split : layers fontDeck ⟨none, Layout.ofRecord fontLayout⟩ fontSlide "title" =
      [[], [], [("text_font", .str "Arial")]] ++ [("font_family", .str "Georgia")] :: [[]] := rfl
  have decides : Decides .font [("font_family", .str "Georgia")] [[]] "font_family"
      (.str "Georgia") :=
    ⟨by simp, Or.inr ⟨rfl, rfl⟩, rfl, rfl⟩
  exact ⟨known, rfl, ((value_of_decides known read split decides).2 _ rfl rfl).2⟩

theorem decides_not_sufficient :
    ¬ ∀ (lookup : LayoutLookup) (deck : Deck) (found : Resolved) (slide : Slide) (id : String)
      (record : Record Json) (shape : Shape) (field : Doubled) (lower upper : List (Record Json))
      (layer : Record Json) (spelling : String) (value : Json),
      lookUp lookup slide deck = .ok (some found) →
      (shapesOf deck found slide).get? id = some record →
      Shape.read (.obj record) = .ok shape →
      layers deck found slide id = lower ++ layer :: upper →
      Decides field layer upper spelling value →
      (field.validated value).isSome = true →
      field.value shape = field.validated value := by
  intro claim
  have wins := claim .map fontDeck ⟨none, Layout.ofRecord fontLayout⟩ fontSlide "title" fontTitle
    (Shape.ofRecord fontTitle) .font [[], [], [("text_font", .str "Arial")]] [[]]
    [("font_family", .str "Georgia")] "font_family" (.str "Georgia") rfl rfl rfl rfl
    ⟨by simp, Or.inr ⟨rfl, rfl⟩, rfl, rfl⟩ rfl
  have arial : Doubled.font.value (Shape.ofRecord fontTitle) = some (.str "Arial") := rfl
  have georgia : Doubled.font.validated (.str "Georgia") = some (.str "Georgia") := rfl
  rw [arial, georgia] at wins
  simp at wins

end Drawing

end DeckPress
