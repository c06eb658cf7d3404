import Mathlib.Data.List.Nodup
import DeckPress.Proofs.Cascade.Merge
import DeckPress.Proofs.Drawing.Plan
import DeckPress.Proofs.Entity.Matching

/-!
The two forms of shapes. Records that have ids may be listed, or keyed by the texts of these: they
contribute the same to a slide, and a layout, master or slide is read with the one form as it is
with the other.
-/

namespace DeckPress.Drawing

open Record Cascade

/-! ## Listed and keyed records -/

/-- Listed records by the texts of their ids, in their order. -/
def keyedBy (items : List Json) : Record Json :=
  items.map fun item => ((idText? item).getD "", item)

/-- A record has an id of its own, which is not null. -/
def HasId (item id : Json) : Prop :=
  ∃ fields, item = .obj fields ∧ Json.given? fields "id" = some id

/-- Shapes as they were, or in a list of records with ids of their own, and keyed by these. -/
inductive Reshaped : Json → Json → Prop where
  | same (value : Json) : Reshaped value value
  | keyed {items : List Json}
      (known : ∀ item ∈ items, ∃ id, HasId item id ∧ id ≠ .str "")
      (distinct : (keyedBy items).Distinct) : Reshaped (.arr items) (.obj (keyedBy items))

def Reshaping : Exchange := fun name v w =>
  v = w ∨ name = "shapes" ∧ Reshaped v w

/-- The shapes of a master and those of its layouts may be reshaped. -/
def Mastering : Exchange := fun name v w =>
  Reshaping name v w ∨ name = "layouts" ∧ ∃ xs ys, v = .arr xs ∧ w = .arr ys ∧
    List.Forall₂ (Exchanged Reshaping) xs ys

/-! ## Shapes -/

theorem idAt_of_given {record : Record Json} {id : Json}
    (given : Json.given? record "id" = some id) (filled : id ≠ .str "") (index : Nat) :
    idAt index record = id.plainText := by
  unfold idAt
  rw [given]
  cases id with
  | str own =>
    have other : own ≠ "" := fun empty => filled (congrArg Json.str empty)
    exact if_neg other
  | _ => rfl

theorem HasId.idText? {item id : Json} (own : HasId item id) :
    idText? item = some id.plainText := by
  obtain ⟨fields, rfl, given⟩ := own
  rw [Drawing.idText?, Json.fields?, Option.bind_some, given, Option.map_some]

theorem contributedFrom_keyedBy {items : List Json}
    (known : ∀ item ∈ items, ∃ id, HasId item id ∧ id ≠ .str "") (index : Nat) :
    contributedFrom index items = contributedFields (keyedBy items) := by
  induction items generalizing index with
  | nil => rfl
  | cons item rest ih =>
    rw [List.forall_mem_cons] at known
    obtain ⟨id, own, filled⟩ := known.1
    have first : keyedBy (item :: rest) = (id.plainText, item) :: keyedBy rest := by
      rw [keyedBy, List.map_cons, own.idText?]
      rfl
    obtain ⟨fields, rfl, given⟩ := own
    rw [contributedFrom, idAt_of_given given filled, ih known.2, first, contributedFields]

theorem contributed_reshaped {v w : Json} (reshaped : Reshaped v w) :
    contributed w = contributed v := by
  cases reshaped with
  | same => rfl
  | keyed known _ => exact (contributedFrom_keyedBy known 0).symm

theorem contributed_collection (value : Json) :
    contributed (scopeOf (Reader.collection value).toOption) = contributed value := by
  cases value <;> rfl

theorem contributed_shapes {P : Exchange} {r s : Record Json} (matching : Matches P r s)
    (reshaped : ∀ v w, P "shapes" v w → Reshaped v w) :
    contributed (scopeOf (s.value? Reader.collection ["shapes"])) =
      contributed (scopeOf (r.value? Reader.collection ["shapes"])) := by
  rw [value?_singleton, value?_singleton]
  rcases matching.get? "shapes" with ⟨left, right⟩ | ⟨v, w, left, right, exchanged⟩
  · rw [left, right]
  · rw [left, right, Option.bind_some, Option.bind_some, contributed_collection,
      contributed_collection, contributed_reshaped (reshaped v w exchanged)]

/-! ## Reading -/

theorem reshaping_same (name : String) (value : Json) : Reshaping name value value :=
  Or.inl rfl

theorem mastering_same (name : String) (value : Json) : Mastering name value value :=
  Or.inl (reshaping_same name value)

theorem null_reshaping {name : String} {v w : Json} (exchanged : Reshaping name v w) :
    v.isNull = w.isNull := by
  rcases exchanged with rfl | ⟨-, reshaped⟩
  · rfl
  · cases reshaped <;> rfl

theorem faults_reshaping {field : Field} {name : String} {v w : Json}
    (collection : name = "shapes" → field.faults = Reader.collection.faults)
    (exchanged : Reshaping name v w) : field.faults v = field.faults w := by
  rcases exchanged with rfl | ⟨here, reshaped⟩
  · rfl
  · rw [collection here]
    cases reshaped <;> rfl

theorem harmless_reshaping {fields : List Field}
    (collection : ∀ field ∈ fields, "shapes" ∈ field.spellings →
      field.faults = Reader.collection.faults) : Exchange.Harmless Reshaping fields where
  null _ _ _ := null_reshaping
  faults field member _ spelled _ _ := faults_reshaping fun here =>
    collection field member (here ▸ spelled)

theorem harmless_layout : Exchange.Harmless Reshaping Layout.fields :=
  harmless_reshaping (by simp [Layout.fields, Field.may])

theorem harmless_slide : Exchange.Harmless Reshaping Slide.fields :=
  harmless_reshaping (by simp [Slide.fields, Field.may])

theorem harmless_master : Exchange.Harmless Mastering Master.fields := by
  have collection : ∀ field ∈ Master.fields, "shapes" ∈ field.spellings →
      field.faults = Reader.collection.faults := by simp [Master.fields, Field.may]
  have list : ∀ field ∈ Master.fields, "layouts" ∈ field.spellings →
      field.faults = Reader.list.faults := by simp [Master.fields, Field.may]
  constructor
  · rintro name v w (exchanged | ⟨-, xs, ys, rfl, rfl, -⟩)
    · exact null_reshaping exchanged
    · rfl
  · rintro field member name spelled v w (exchanged | ⟨rfl, xs, ys, rfl, rfl, -⟩)
    · exact faults_reshaping (fun here => collection field member (here ▸ spelled)) exchanged
    · rw [list field member spelled]
      rfl

structure AlikeLayouts (a b : Layout) : Prop where
  bg : b.bg = a.bg
  shapes : contributed (scopeOf b.shapes) = contributed (scopeOf a.shapes)

structure AlikeMasters (a b : Master) : Prop where
  bg : b.bg = a.bg
  shapes : contributed (scopeOf b.shapes) = contributed (scopeOf a.shapes)
  layouts : List.Forall₂ (Exchanged Reshaping) a.layouts b.layouts

structure AlikeSlides (a b : Slide) : Prop where
  id : b.id = a.id
  layout : b.layout = a.layout
  master : b.master = a.master
  bg : b.bg = a.bg
  shapes : contributed (scopeOf b.shapes) = contributed (scopeOf a.shapes)
  values : b.values = a.values
  overrides : b.overrides = a.overrides

section Read

variable {α : Type} {r s : Record Json}

theorem value?_reshaping (matching : Matches Reshaping r s) (reader : Reader α) {name : String}
    (other : name ≠ "shapes") : s.value? reader [name] = r.value? reader [name] := by
  refine (matching.value? fun v w exchanged => ?_).symm
  rcases exchanged with rfl | ⟨here, -⟩
  · rfl
  · exact absurd here other

theorem value?_mastering (matching : Matches Mastering r s) (reader : Reader α) {name : String}
    (other : name ≠ "shapes" ∧ name ≠ "layouts") :
    s.value? reader [name] = r.value? reader [name] := by
  refine (matching.value? fun v w exchanged => ?_).symm
  rcases exchanged with (rfl | ⟨here, -⟩) | ⟨here, -⟩
  · rfl
  · exact absurd here other.1
  · exact absurd here other.2

theorem reshaped_shapes {v w : Json} (exchanged : Reshaping "shapes" v w) : Reshaped v w := by
  rcases exchanged with rfl | ⟨-, reshaped⟩
  · exact .same v
  · exact reshaped

theorem reshaped_master {v w : Json} (exchanged : Mastering "shapes" v w) : Reshaped v w := by
  rcases exchanged with exchanged | ⟨here, -⟩
  · exact reshaped_shapes exchanged
  · exact absurd here (by decide)

theorem layouts_mastering (matching : Matches Mastering r s) :
    List.Forall₂ (Exchanged Reshaping) ((r.value? Reader.list ["layouts"]).getD [])
      ((s.value? Reader.list ["layouts"]).getD []) := by
  have same (items : List Json) : List.Forall₂ (Exchanged Reshaping) items items :=
    List.forall₂_same.mpr fun item _ => .rfl_of reshaping_same item
  rw [value?_singleton, value?_singleton]
  rcases matching.get? "layouts" with ⟨left, right⟩ | ⟨v, w, left, right, exchanged⟩
  · rw [left, right]
    exact .nil
  · rw [left, right]
    rcases exchanged with (rfl | ⟨here, -⟩) | ⟨-, xs, ys, rfl, rfl, each⟩
    · exact same _
    · exact absurd here (by decide)
    · exact each

end Read

section Alike

variable {v w : Json}

theorem read_layout (exchanged : Exchanged Reshaping v w) :
    Option.Rel AlikeLayouts (Layout.read v).toOption (Layout.read w).toOption := by
  refine related_imp ?_ (exchanged.read Layout.ofRecord harmless_layout)
  rintro _ _ ⟨r, s, matching, rfl, rfl⟩
  exact ⟨value?_reshaping matching _ (by decide), contributed_shapes matching fun _ _ =>
    reshaped_shapes⟩

theorem read_master (exchanged : Exchanged Mastering v w) :
    Option.Rel AlikeMasters (Master.read v).toOption (Master.read w).toOption := by
  refine related_imp ?_ (exchanged.read Master.ofRecord harmless_master)
  rintro _ _ ⟨r, s, matching, rfl, rfl⟩
  exact ⟨value?_mastering matching _ (by decide), contributed_shapes matching fun _ _ =>
    reshaped_master, layouts_mastering matching⟩

theorem read_slide (exchanged : Exchanged Reshaping v w) :
    Option.Rel AlikeSlides (Slide.read v).toOption (Slide.read w).toOption := by
  refine related_imp ?_ (exchanged.read Slide.ofRecord harmless_slide)
  rintro _ _ ⟨r, s, matching, rfl, rfl⟩
  have kept {α : Type} (reader : Reader α) (name : String) (other : name ≠ "shapes") :
      s.value? reader [name] = r.value? reader [name] := value?_reshaping matching reader other
  exact {
    id := kept Reader.text "id" (by decide)
    layout := kept Reader.text "layout" (by decide)
    master := kept Reader.text "master" (by decide)
    bg := kept Reader.table "bg" (by decide)
    shapes := contributed_shapes matching fun _ _ => reshaped_shapes
    values := congrArg (·.getD []) (kept Reader.table "meta" (by decide))
    overrides := congrArg (·.getD []) (kept Reader.list "overrides" (by decide)) }

end Alike

end DeckPress.Drawing
