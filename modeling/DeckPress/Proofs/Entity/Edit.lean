import DeckPress.Entity.Background
import DeckPress.Entity.Deck
import DeckPress.Entity.Shape
import DeckPress.Proofs.Entity.Agreement
import DeckPress.Proofs.Trace

/-!
Edits of a document that leave alone what an author says in it: names are moved, names that no
entity knows come and go, and so do nulls where they count as absent. An edit is made somewhere in
the document, and what may be edited there depends on the part of a deck that stands there. After
one edit the names that count have what they had, or the same with an edit further inside.
-/

namespace DeckPress

open Record

inductive Part where
  | deck
  | slideSize
  | theme
  | table
  | layouts
  | layout
  | masters
  | master
  | slides
  | slide
  | values
  | background
  | shapes
  | shape
  | overrides
  | override
  deriving DecidableEq

namespace Part

def under : Part → String → Option Part
  | .deck, "slide_size" => some .slideSize
  | .deck, "theme" => some .theme
  | .deck, "colors" => some .table
  | .deck, "fonts" => some .table
  | .deck, "layouts" => some .layouts
  | .deck, "masters" => some .masters
  | .deck, "shapes" => some .shapes
  | .deck, "bg" => some .background
  | .deck, "slides" => some .slides
  | .theme, "colors" => some .table
  | .theme, "fonts" => some .table
  | .layouts, _ => some .layout
  | .layout, "bg" => some .background
  | .layout, "shapes" => some .shapes
  | .master, "bg" => some .background
  | .master, "shapes" => some .shapes
  | .master, "layouts" => some .layouts
  | .slide, "bg" => some .background
  | .slide, "shapes" => some .shapes
  | .slide, "meta" => some .values
  | .slide, "overrides" => some .overrides
  | .shapes, _ => some .shape
  | _, _ => none

def item : Part → Option Part
  | .layouts => some .layout
  | .masters => some .master
  | .slides => some .slide
  | .shapes => some .shape
  | .overrides => some .override
  | _ => none

/-- The names that an entity knows, its fields under all their spellings. Other parts know none, or
may have any. -/
def known : Part → Option (List String)
  | .deck => some (Field.spelled Deck.fields)
  | .slideSize => some (Field.spelled SlideSize.fields)
  | .theme => some (Field.spelled Theme.fields)
  | .layout => some (Field.spelled Layout.fields)
  | .master => some (Field.spelled Master.fields)
  | .slide => some (Field.spelled Slide.fields)
  | .background => some (Field.spelled Background.fields)
  | .shape => some (Field.spelled Shape.fields)
  | .override => some ("shape" :: Field.spelled Shape.fields)
  | _ => none

/-- Whether null counts as absent in an object. -/
def dropsNulls : Part → Bool
  | .deck | .slideSize | .theme | .layout | .master | .slide | .values => true
  | _ => false

/-- Whether the names of an object may be moved. -/
def unordered : Part → Bool
  | .shapes | .masters | .slides | .overrides => false
  | _ => true

/-- Names that are looked at: the known ones, and those that hold half a pair. -/
def Counts (part : Part) (name : String) : Prop :=
  match part.known with
  | some names => name ∈ names ∨ Text.hasHalf name = true
  | none => True

theorem counts_half (part : Part) {name : String} (half : Text.hasHalf name = true) :
    part.Counts name := by
  unfold Counts
  split
  · exact Or.inr half
  · trivial

def value? (part : Part) (r : Record Json) (name : String) : Option Json :=
  if part.dropsNulls then Json.given? r name else r.get? name

end Part

/-- One edit, somewhere in a part. Names that are not known come and go if they are allowed. -/
inductive Edit (allowed : String → Prop) : Part → Json → Json → Prop where
  | reordered {part : Part} {r s : Record Json} (unordered : part.unordered = true)
      (distinct : Distinct r) (moved : r.Perm s) : Edit allowed part (.obj r) (.obj s)
  | unknown {part : Part} {names : List String} {r : Record Json} {name : String} {value : Json}
      (entity : part.known = some names) (foreign : name ∉ names) (open_ : allowed name)
      (distinct : Distinct (r ++ [(name, value)])) :
      Edit allowed part (.obj r) (.obj (r ++ [(name, value)]))
  | null {part : Part} {r : Record Json} {name : String} (dropped : part.dropsNulls = true)
      (distinct : Distinct (r ++ [(name, .null)])) :
      Edit allowed part (.obj r) (.obj (r ++ [(name, .null)]))
  | field {part child : Part} {before after : Record Json} {name : String} {v w : Json}
      (place : part.under name = some child) (distinct : Distinct (before ++ (name, v) :: after))
      (inner : Edit allowed child v w) :
      Edit allowed part (.obj (before ++ (name, v) :: after)) (.obj (before ++ (name, w) :: after))
  | item {part child : Part} {before after : List Json} {v w : Json}
      (place : part.item = some child) (inner : Edit allowed child v w) :
      Edit allowed part (.arr (before ++ v :: after)) (.arr (before ++ w :: after))

/-- Values that are the same, or between which there is one edit of the part that they are. -/
def Changed (allowed : String → Prop) (place : Option Part) (v w : Json) : Prop :=
  v = w ∨ ∃ part, place = some part ∧ Edit allowed part v w

abbrev Part.within (part : Part) (allowed : String → Prop) : Exchange :=
  fun name => Changed allowed (part.under name)

namespace Edit

variable {allowed : String → Prop} {part : Part} {v w : Json}

theorem shape (edit : Edit allowed part v w) :
    (∃ r s, v = .obj r ∧ w = .obj s) ∨ ∃ xs ys, v = .arr xs ∧ w = .arr ys := by
  cases edit with
  | item => exact Or.inr ⟨_, _, rfl, rfl⟩
  | _ => exact Or.inl ⟨_, _, rfl, rfl⟩

theorem null_eq (edit : Edit allowed part v w) : v.isNull = w.isNull := by
  rcases edit.shape with ⟨r, s, rfl, rfl⟩ | ⟨xs, ys, rfl, rfl⟩
  · rfl
  · rfl

theorem items {xs ys : List Json} (edit : Edit allowed part (.arr xs) (.arr ys)) :
    List.Forall₂ (Changed allowed part.item) xs ys := by
  cases edit with
  | @item _ child before after _ _ place inner =>
    have same (values : List Json) : List.Forall₂ (Changed allowed part.item) values values :=
      List.forall₂_same.mpr fun value _ => Or.inl rfl
    exact List.rel_append (same before) (.cons (Or.inr ⟨child, place, inner⟩) (same after))

theorem matches_field {child : Part} {name : String} (place : part.under name = some child)
    (inner : Edit allowed child v w) (before after : Record Json) :
    Matches (part.within allowed) (before ++ (name, v) :: after)
      (before ++ (name, w) :: after) := by
  have same (fields : Record Json) :
      Matches (part.within allowed) fields fields :=
    Matches.rfl_of (fun _ _ => Or.inl rfl) fields
  exact List.rel_append (same before) (.cons ⟨rfl, Or.inr ⟨child, place, inner⟩⟩ (same after))

theorem fields {r s : Record Json} (edit : Edit allowed part (.obj r) (.obj s))
    (ordered : part.unordered = false) (closed : part.known = none)
    (kept : part.dropsNulls = false) :
    Matches (part.within allowed) r s := by
  cases edit with
  | reordered unordered _ _ =>
    rw [ordered] at unordered
    cases unordered
  | unknown entity _ _ _ =>
    rw [closed] at entity
    cases entity
  | null dropped _ =>
    rw [kept] at dropped
    cases dropped
  | field place _ inner => exact matches_field place inner _ _

end Edit

/-! ## What an edit leaves -/

section Agreement

variable {allowed : String → Prop} {part : Part}

theorem Part.value?_congr {r s : Record Json} {name : String} (same : r.get? name = s.get? name) :
    part.value? r name = part.value? s name := by
  unfold Part.value?
  rw [Json.given?_eq, Json.given?_eq, same]

/-- An edit further inside neither makes a null nor takes one away. -/
theorem Part.value?_changed {place : Option Part} {r s : Record Json} {name : String}
    (changed : Option.Rel (Changed allowed place) (r.get? name) (s.get? name)) :
    Option.Rel (Changed allowed place) (part.value? r name) (part.value? s name) := by
  unfold Part.value?
  rw [Json.given?_eq, Json.given?_eq]
  generalize r.get? name = left at changed ⊢
  generalize s.get? name = right at changed ⊢
  split
  · cases changed with
    | none => exact .none
    | @some v w here =>
      have null : v.isNull = w.isNull := by
        rcases here with rfl | ⟨child, -, inner⟩
        · rfl
        · exact inner.null_eq
      rw [Option.filter_some, Option.filter_some, null]
      split
      · exact .some here
      · exact .none
  · exact changed

/-- What is looked up after an edit of an object is what was there, or an edit of it. -/
structure Edit.Leaves (allowed : String → Prop) (part : Part) (r s : Record Json) : Prop where
  before : Distinct r
  after : Distinct s
  values : ∀ name, part.Counts name →
    Option.Rel (Changed allowed (part.under name)) (part.value? r name) (part.value? s name)

theorem Edit.Leaves.of_get? {r s : Record Json} (before : Distinct r) (after : Distinct s)
    (same : ∀ name, part.Counts name → part.value? r name = part.value? s name) :
    Edit.Leaves allowed part r s := by
  refine ⟨before, after, fun name counted => ?_⟩
  rw [same name counted]
  cases part.value? s name with
  | none => exact .none
  | some value => exact .some (Or.inl rfl)

theorem Edit.leaves (whole : ∀ name, allowed name → Text.hasHalf name = false)
    {r s : Record Json} (edit : Edit allowed part (.obj r) (.obj s)) :
    Edit.Leaves allowed part r s := by
  cases edit with
  | reordered _ distinct moved =>
    have names : r.keys.Perm s.keys := moved.map Prod.fst
    refine .of_get? distinct (names.nodup_iff.mp distinct) fun name _ => ?_
    exact Part.value?_congr (get?_perm distinct moved name)
  | @unknown _ names _ other value entity foreign open_ distinct =>
    refine .of_get? (distinct_of_concat distinct).2 distinct fun name counted => ?_
    have apart : other ≠ name := by
      rintro rfl
      unfold Part.Counts at counted
      rw [entity] at counted
      rcases counted with listed | half
      · exact foreign listed
      · rw [whole other open_] at half
        cases half
    refine Part.value?_congr ?_
    rw [get?_append]
    simp [get?, apart]
  | @null _ _ other dropped distinct =>
    have fresh := distinct_of_concat distinct
    refine .of_get? fresh.2 distinct fun name _ => ?_
    unfold Part.value?
    rw [if_pos dropped, if_pos dropped, Json.given?_eq, Json.given?_eq, get?_append]
    by_cases here : other = name
    · subst here
      rw [fresh.1, Option.none_or]
      simp only [get?, if_true]
      rfl
    · simp [get?, here]
  | @field _ child before after other v u place distinct inner =>
    have matching := Edit.matches_field place inner before after
    have names := matching.keys_eq
    refine ⟨distinct, ?_, fun name _ => Part.value?_changed ?_⟩
    · rw [Distinct, ← names]
      exact distinct
    · rcases matching.get? name with ⟨left, right⟩ | ⟨v, w, left, right, changed⟩
      · rw [left, right]
        exact .none
      · rw [left, right]
        exact .some changed

theorem Edit.Leaves.agrees {r s : Record Json} (leaves : Edit.Leaves allowed part r s)
    (dropped : part.dropsNulls = true) :
    Agrees (part.within allowed) part.Counts r.withoutNulls
      s.withoutNulls := by
  intro name counted
  have here := leaves.values name counted
  unfold Part.value? at here
  rw [if_pos dropped, if_pos dropped] at here
  rw [get?_withoutNulls leaves.before, get?_withoutNulls leaves.after]
  exact here

end Agreement

/-! ## Changed values -/

namespace Changed

variable {allowed : String → Prop} {v w : Json}

theorem eq (changed : Changed allowed none v w) : v = w := by
  rcases changed with same | ⟨part, place, -⟩
  · exact same
  · cases place

theorem shape {place : Option Part} (changed : Changed allowed place v w) :
    v = w ∨ (∃ r s, v = .obj r ∧ w = .obj s) ∨ ∃ xs ys, v = .arr xs ∧ w = .arr ys := by
  rcases changed with same | ⟨part, -, edit⟩
  · exact Or.inl same
  · exact Or.inr edit.shape

/-- A part that holds no other parts is an object, and stays the same in all that counts. -/
theorem flat (whole : ∀ name, allowed name → Text.hasHalf name = false) {part : Part}
    (changed : Changed allowed (some part) v w) (single : part.item = none)
    (leaf : ∀ name, part.under name = none) :
    v = w ∨ ∃ r s, v = .obj r ∧ w = .obj s ∧ Edit.Leaves allowed part r s ∧
      ∀ name, part.Counts name → part.value? r name = part.value? s name := by
  rcases changed with same | ⟨_, place, edit⟩
  · exact Or.inl same
  · cases place
    rcases edit.shape with ⟨r, s, rfl, rfl⟩ | ⟨xs, ys, rfl, rfl⟩
    · have leaves := edit.leaves whole
      refine Or.inr ⟨r, s, rfl, rfl, leaves, fun name counted => ?_⟩
      have here := leaves.values name counted
      rw [leaf name] at here
      generalize part.value? r name = left at here ⊢
      generalize part.value? s name = right at here ⊢
      cases here with
      | none => rfl
      | some changed => exact congrArg some changed.eq
    · cases edit with
      | item place _ =>
        rw [single] at place
        cases place

theorem sameOn (whole : ∀ name, allowed name → Text.hasHalf name = false) {part : Part}
    (changed : Changed allowed (some part) v w) (single : part.item = none)
    (leaf : ∀ name, part.under name = none) (kept : part.dropsNulls = false) :
    v = w ∨ ∃ r s, v = .obj r ∧ w = .obj s ∧ SameOn part.Counts r s := by
  rcases changed.flat whole single leaf with same | ⟨r, s, left, right, leaves, values⟩
  · exact Or.inl same
  · refine Or.inr ⟨r, s, left, right, sameOn_of_distinct leaves.before leaves.after ?_⟩
    intro name counted
    have here := values name counted
    unfold Part.value? at here
    rwa [kept, if_neg Bool.false_ne_true, if_neg Bool.false_ne_true] at here

theorem entity (whole : ∀ name, allowed name → Text.hasHalf name = false) {part : Part}
    (changed : Changed allowed (some part) v w) (single : part.item = none)
    (dropped : part.dropsNulls = true) :
    v = w ∧ v.fields? = none ∨ ∃ r s : Record Json, v = .obj r ∧ w = .obj s ∧
      Agrees (part.within allowed) part.Counts r.withoutNulls
        s.withoutNulls := by
  rcases changed with rfl | ⟨_, place, edit⟩
  · cases v with
    | obj r =>
      exact Or.inr ⟨r, r, rfl, rfl, .rfl_of (fun _ _ => Or.inl rfl) _⟩
    | _ => exact Or.inl ⟨rfl, rfl⟩
  · cases place
    rcases edit.shape with ⟨r, s, rfl, rfl⟩ | ⟨xs, ys, rfl, rfl⟩
    · exact Or.inr ⟨r, s, rfl, rfl, (edit.leaves whole).agrees dropped⟩
    · cases edit with
      | item place _ =>
        rw [single] at place
        cases place

/-- An entity is read before an edit as it is afterwards, up to what the edit has done inside. -/
theorem read {α : Type} {R : α → α → Prop} {part : Part} {fields : List Field}
    {make : Record Json → α} (whole : ∀ name, allowed name → Text.hasHalf name = false)
    (changed : Changed allowed (some part) v w) (single : part.item = none)
    (dropped : part.dropsNulls = true) (declared : part.known = some (Field.spelled fields))
    (harmless : ∀ field ∈ fields, ∀ name ∈ field.spellings, ∀ v w,
      Changed allowed (part.under name) v w → field.faults v = field.faults w)
    (made : ∀ r s, Agrees (part.within allowed) part.Counts r s →
      R (make r) (make s)) :
    InStep R (readEntity fields make v) (readEntity fields make w) := by
  rcases changed.entity whole single dropped with ⟨rfl, other⟩ | ⟨r, s, rfl, rfl, agrees⟩
  · cases v with
    | obj r => cases other
    | _ => exact .error _
  · have counted : ∀ name ∈ Field.spelled fields, part.Counts name := by
      intro name listed
      unfold Part.Counts
      rw [declared]
      exact Or.inl listed
    rcases agrees.readEntity make (fun _ => part.counts_half) counted harmless with
      ⟨refusal, left, right⟩ | ⟨left, right⟩
    · rw [left, right]
      exact .error refusal
    · rw [left, right]
      exact .ok (made _ _ agrees)

/-- A field whose faults do not depend on what an object or a list holds. -/
def Shallow (field : Field) : Prop :=
  (∀ r s, field.faults (.obj r) = field.faults (.obj s)) ∧
    ∀ xs ys, field.faults (.arr xs) = field.faults (.arr ys)

theorem faults_shallow {field : Field} (shallow : Shallow field) {place : Option Part}
    (changed : Changed allowed place v w) : field.faults v = field.faults w := by
  rcases changed.shape with rfl | ⟨r, s, rfl, rfl⟩ | ⟨xs, ys, rfl, rfl⟩
  · rfl
  · exact shallow.1 r s
  · exact shallow.2 xs ys

end Changed

end DeckPress
