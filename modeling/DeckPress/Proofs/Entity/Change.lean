import DeckPress.Proofs.Cascade.Erasure
import DeckPress.Proofs.Entity.Lenient
import DeckPress.Proofs.Entity.Matching

/-!
Records in which each value is replaced by one that is computed from it. An entity that is read of
the changed record is the one read before, with the same change made to its fields. The change
studied here takes a shape out of the shapes of a deck and of all its masters, layouts and slides.
-/

namespace DeckPress

open Record

/-- What is made of the value under a name. -/
abbrev Change := String → Json → Json

namespace Change

/-- A record with its values changed. Other values have no fields to change. -/
def apply (change : Change) : Json → Json
  | .obj fields => .obj (fields.map fun field => (field.1, change field.1 field.2))
  | value => value

def exchange (change : Change) : Exchange :=
  fun name v w => change name v = w

variable {change : Change} {r s : Record Json}

theorem matches_apply (change : Change) (fields : Record Json) :
    Matches change.exchange fields
      (fields.map fun field => (field.1, change field.1 field.2)) :=
  Matches.of_map (fun _ _ => rfl) fields

theorem exchanged (change : Change) (value : Json) :
    Exchanged change.exchange value (change.apply value) := by
  cases value with
  | obj fields => exact .fields (matches_apply change fields)
  | _ => exact .other rfl

/-- A reader sees the change of a value as a change of what it reads. -/
theorem value?_eq {α : Type} {reader : Reader α} {made : α → α}
    (matching : Matches change.exchange r s) {name : String}
    (read : ∀ v, (reader (change name v)).toOption = (reader v).toOption.map made) :
    s.value? reader [name] = (r.value? reader [name]).map made := by
  rw [value?_singleton, value?_singleton]
  rcases matching.get? name with ⟨left, right⟩ | ⟨v, _, left, right, rfl⟩
  · rw [left, right]
    rfl
  · rw [left, right]
    exact read v

theorem value?_kept {α : Type} (reader : Reader α) (matching : Matches change.exchange r s)
    {name : String} (kept : ∀ v, change name v = v) :
    s.value? reader [name] = r.value? reader [name] := by
  refine (matching.value? fun v w changed => ?_).symm
  exact congrArg reader ((kept v).symm.trans changed)

theorem read_apply {α : Type} {fields : List Field} {make : Record Json → α} {made : α → α}
    (harmless : change.exchange.Harmless fields)
    (build : ∀ r s, Matches change.exchange r s → make s = made (make r)) (value : Json) :
    (readEntity fields make (change.apply value)).toOption =
      (readEntity fields make value).toOption.map made := by
  have read := (change.exchanged value).read make harmless
  generalize (readEntity fields make value).toOption = before at read ⊢
  generalize (readEntity fields make (change.apply value)).toOption = after at read ⊢
  cases read with
  | none => rfl
  | some both =>
    obtain ⟨r, s, matching, rfl, rfl⟩ := both
    exact congrArg some (build r s matching)

end Change

def Json.each (change : Json → Json) : Json → Json
  | .obj fields => .obj (fields.map fun field => (field.1, change field.2))
  | .arr items => .arr (items.map change)
  | value => value

def Collection.each (change : Json → Json) : Collection → Collection
  | .keyed fields => .keyed (fields.map fun field => (field.1, change field.2))
  | .listed items => .listed (items.map change)

theorem Reader.list_each (change : Json → Json) (value : Json) :
    (list (value.each change)).toOption = (list value).toOption.map (List.map change) := by
  cases value <;> rfl

theorem Reader.collection_each (change : Json → Json) (value : Json) :
    (collection (value.each change)).toOption =
      (collection value).toOption.map (Collection.each change) := by
  cases value <;> rfl

/-! ## A shape taken out -/

def Collection.without (id : String) : Collection → Collection
  | .keyed shapes => .keyed (erase shapes id)
  | .listed items => .listed items

theorem Reader.collection_without (id : String) (value : Json) :
    (collection (Cascade.Scope.without id value)).toOption =
      (collection value).toOption.map (Collection.without id) := by
  cases value <;> rfl

namespace Change

/-- Takes a shape out of the shapes of a layout or a slide. -/
def ownShape (id : String) : Change := fun name value =>
  if name = "shapes" then Cascade.Scope.without id value else value

def masterShape (id : String) : Change := fun name value =>
  if name = "layouts" then value.each (ownShape id).apply else ownShape id name value

def deckShape (id : String) : Change := fun name value =>
  if name = "masters" then value.each (masterShape id).apply
  else if name = "slides" then value.each (ownShape id).apply
  else masterShape id name value

variable {id : String} {r s : Record Json}

theorem null_each (change : Json → Json) (value : Json) :
    value.isNull = (value.each change).isNull := by
  cases value <;> rfl

theorem null_ownShape (id name : String) (value : Json) :
    value.isNull = (ownShape id name value).isNull := by
  unfold ownShape
  split
  · cases value <;> rfl
  · rfl

theorem null_masterShape (id name : String) (value : Json) :
    value.isNull = (masterShape id name value).isNull := by
  unfold masterShape
  split
  · exact null_each _ value
  · exact null_ownShape id name value

theorem null_deckShape (id name : String) (value : Json) :
    value.isNull = (deckShape id name value).isNull := by
  unfold deckShape
  split
  · exact null_each _ value
  · split
    · exact null_each _ value
    · exact null_masterShape id name value

/-- A change that is no fault of the fields whose name has a reader of its own. -/
theorem faults_ownShape {field : Field} {name : String} (value : Json)
    (collection : name = "shapes" → field.faults = Reader.collection.faults) :
    field.faults value = field.faults (ownShape id name value) := by
  unfold ownShape
  split
  · rename_i here
    rw [collection here]
    cases value <;> rfl
  · rfl

theorem harmless_ownShape {fields : List Field}
    (collection : ∀ field ∈ fields, "shapes" ∈ field.spellings →
      field.faults = Reader.collection.faults) : (ownShape id).exchange.Harmless fields where
  null name v _ changed := changed ▸ null_ownShape id name v
  faults field member _ spelled v _ changed := changed ▸
    faults_ownShape v fun here => collection field member (here ▸ spelled)

theorem harmless_masterShape : (masterShape id).exchange.Harmless Master.fields where
  null name v _ changed := changed ▸ null_masterShape id name v
  faults := by
    rintro field member name spelled v _ rfl
    unfold masterShape
    have collection : "shapes" ∈ field.spellings → field.faults = Reader.collection.faults := by
      revert field
      simp [Master.fields, Field.may]
    have list : "layouts" ∈ field.spellings → field.faults = Reader.list.faults := by
      revert field
      simp [Master.fields, Field.may]
    split
    · rename_i here
      rw [list (here ▸ spelled)]
      cases v <;> rfl
    · exact faults_ownShape v fun here => collection (here ▸ spelled)

end Change

/-! ## What is read then -/

theorem Change.shapes_without {change : Change} {id : String} {r s : Record Json}
    (matching : Matches change.exchange r s)
    (own : ∀ v, change "shapes" v = Cascade.Scope.without id v) :
    s.value? Reader.collection ["shapes"] =
      (r.value? Reader.collection ["shapes"]).map (Collection.without id) := by
  refine Change.value?_eq matching fun v => ?_
  rw [own]
  exact Reader.collection_without id v

def Layout.without (id : String) (layout : Layout) : Layout :=
  { layout with shapes := layout.shapes.map (Collection.without id) }

def Slide.without (id : String) (slide : Slide) : Slide :=
  { slide with shapes := slide.shapes.map (Collection.without id) }

def Master.without (id : String) (master : Master) : Master :=
  { master with
    shapes := master.shapes.map (Collection.without id)
    layouts := master.layouts.map (Change.ownShape id).apply }

def Deck.without (id : String) (deck : Deck) : Deck :=
  { deck with
    shapes := deck.shapes.map (Collection.without id)
    layouts := deck.layouts.map (Collection.each (Change.ownShape id).apply)
    masters := deck.masters.map (Change.masterShape id).apply
    slides := deck.slides.map (List.map (Change.ownShape id).apply) }

section Without

variable {id : String} {r s : Record Json}

theorem Layout.ofRecord_without (matching : Matches (Change.ownShape id).exchange r s) :
    ofRecord s = (ofRecord r).without id := by
  have kept {α : Type} (reader : Reader α) (name : String) (other : name ≠ "shapes") :
      s.value? reader [name] = r.value? reader [name] :=
    Change.value?_kept reader matching fun _ => if_neg other
  unfold ofRecord without
  rw [Change.shapes_without matching fun _ => rfl, kept _ "id" (by decide),
    kept _ "name" (by decide), kept _ "bg" (by decide)]

theorem Slide.ofRecord_without (matching : Matches (Change.ownShape id).exchange r s) :
    ofRecord s = (ofRecord r).without id := by
  have kept {α : Type} (reader : Reader α) (name : String) (other : name ≠ "shapes") :
      s.value? reader [name] = r.value? reader [name] :=
    Change.value?_kept reader matching fun _ => if_neg other
  unfold ofRecord without
  rw [Change.shapes_without matching fun _ => rfl, kept _ "id" (by decide),
    kept _ "layout" (by decide), kept _ "master" (by decide), kept _ "bg" (by decide),
    kept _ "meta" (by decide), kept _ "overrides" (by decide)]

theorem Master.ofRecord_without (matching : Matches (Change.masterShape id).exchange r s) :
    ofRecord s = (ofRecord r).without id := by
  have kept {α : Type} (reader : Reader α) (name : String)
      (other : name ≠ "layouts" ∧ name ≠ "shapes") :
      s.value? reader [name] = r.value? reader [name] :=
    Change.value?_kept reader matching fun _ => (if_neg other.1).trans (if_neg other.2)
  have layouts : s.value? Reader.list ["layouts"] =
      (r.value? Reader.list ["layouts"]).map (List.map (Change.ownShape id).apply) :=
    Change.value?_eq matching (Reader.list_each (Change.ownShape id).apply)
  unfold ofRecord without
  rw [Change.shapes_without matching fun _ => rfl, layouts, kept _ "id" (by decide),
    kept _ "name" (by decide), kept _ "bg" (by decide)]
  cases r.value? Reader.list ["layouts"] <;> rfl

theorem Deck.ofRecord_without (matching : Matches (Change.deckShape id).exchange r s) :
    ofRecord s = (ofRecord r).without id := by
  have kept {α : Type} (reader : Reader α) (name : String)
      (other : name ≠ "masters" ∧ name ≠ "slides" ∧ name ≠ "layouts" ∧ name ≠ "shapes") :
      s.value? reader [name] = r.value? reader [name] :=
    Change.value?_kept reader matching fun _ =>
      ((if_neg other.1).trans (if_neg other.2.1)).trans
        ((if_neg other.2.2.1).trans (if_neg other.2.2.2))
  have layouts : s.value? Reader.collection ["layouts"] =
      (r.value? Reader.collection ["layouts"]).map
        (Collection.each (Change.ownShape id).apply) :=
    Change.value?_eq matching (Reader.collection_each (Change.ownShape id).apply)
  have masters : s.value? Reader.list ["masters"] =
      (r.value? Reader.list ["masters"]).map (List.map (Change.masterShape id).apply) :=
    Change.value?_eq matching (Reader.list_each (Change.masterShape id).apply)
  have slides : s.value? Reader.list ["slides"] =
      (r.value? Reader.list ["slides"]).map (List.map (Change.ownShape id).apply) :=
    Change.value?_eq matching (Reader.list_each (Change.ownShape id).apply)
  unfold ofRecord without
  rw [Change.shapes_without matching fun _ => rfl, layouts, masters, slides,
    kept _ "id" (by decide), kept _ "version" (by decide), kept _ "slide_size" (by decide),
    kept _ "colors" (by decide), kept _ "fonts" (by decide),
    kept _ "theme" (by decide), kept _ "bg" (by decide)]
  cases r.value? Reader.list ["masters"] <;> rfl

theorem Layout.read_without (id : String) (item : Json) :
    (read ((Change.ownShape id).apply item)).toOption = (read item).toOption.map (without id) :=
  Change.read_apply (Change.harmless_ownShape (by simp [fields, Field.may]))
    (fun _ _ => ofRecord_without) item

theorem Slide.read_without (id : String) (raw : Json) :
    (read ((Change.ownShape id).apply raw)).toOption = (read raw).toOption.map (without id) :=
  Change.read_apply (Change.harmless_ownShape (by simp [fields, Field.may]))
    (fun _ _ => ofRecord_without) raw

theorem Master.read_without (id : String) (item : Json) :
    (read ((Change.masterShape id).apply item)).toOption = (read item).toOption.map (without id) :=
  Change.read_apply Change.harmless_masterShape (fun _ _ => ofRecord_without) item

theorem Deck.reading?_without (id : String) (document : Json) :
    reading? ((Change.deckShape id).apply document) = (reading? document).map (without id) := by
  cases document with
  | obj r =>
    have harmless : (Change.deckShape id).exchange.Harmless [] :=
      { null := fun name v _ changed => changed ▸ Change.null_deckShape id name v
        faults := fun _ none_declared => absurd none_declared List.not_mem_nil }
    have matching := (Change.matches_apply (Change.deckShape id) r).withoutNulls harmless
    have made := ofRecord_without matching
    unfold Change.apply reading?
    dsimp only
    rw [← matching.keys_eq]
    split
    · rfl
    · rcases matching.get? "slides" with ⟨left, right⟩ | ⟨v, _, left, right, rfl⟩
      · rw [left, right]
        exact congrArg some made
      · rw [left, right]
        cases v with
        | arr items => exact congrArg some made
        | _ => rfl
  | _ => rfl

end Without

end DeckPress
