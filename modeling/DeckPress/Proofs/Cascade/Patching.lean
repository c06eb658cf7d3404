import DeckPress.Proofs.Cascade.Override
import DeckPress.Proofs.Cascade.Sameness

/-!
Patches as scopes. A patch that names a merged shape does what a further scope with this one shape
would do, so the patches of a slide are the most specific scopes of its cascade. They change fields
of the shapes that they name, the last patch winning, and nothing else.
-/

namespace DeckPress.Cascade

open Record

/-- A patch names a shape. -/
def Names (id : String) (patch : Json) : Prop :=
  ∃ fields target, patch = .obj fields ∧ Json.given? fields "shape" = some target ∧
    target.plainText = id

/-- The scope that a patch comes to: the shape that it names, with its other fields. There is none
when the patch names none of the shapes. -/
def patchScope? (ids : List String) (patch : Json) : Option Json :=
  match patch with
  | .obj fields =>
    match Json.given? fields "shape" with
    | none => none
    | some target =>
      if target.plainText ∈ ids then
        some (.obj [(target.plainText, .obj (Record.erase fields "shape"))])
      else none
  | _ => none

theorem keys_applyOverride (shapes : Shapes) (patch : Json) :
    (applyOverride shapes patch).keys = shapes.keys := by
  unfold applyOverride
  split
  · rfl
  split
  · rfl
  split
  · rfl
  next record known =>
    rw [keys_put, if_pos (mem_keys_iff.mpr (by rw [known]; rfl))]

theorem keys_applyOverrides (shapes : Shapes) (patches : List Json) :
    (applyOverrides shapes patches).keys = shapes.keys := by
  induction patches generalizing shapes with
  | nil => rfl
  | cons patch rest ih => exact (ih _).trans (keys_applyOverride shapes patch)

theorem applyOverride_eq (shapes : Shapes) (patch : Json) :
    applyOverride shapes patch =
      addAll shapes ((patchScope? shapes.keys patch).toList.flatMap contributed) := by
  cases patch with
  | obj fields =>
    unfold applyOverride patchScope?
    dsimp only [Json.fields?]
    cases Json.given? fields "shape" with
    | none => rfl
    | some target =>
      dsimp only
      cases known : get? shapes target.plainText with
      | none =>
        have unknown : target.plainText ∉ shapes.keys := by simp [mem_keys_iff, known]
        rw [if_neg unknown]
        rfl
      | some record =>
        have member : target.plainText ∈ shapes.keys := by simp [mem_keys_iff, known]
        have laid (patch : Record Json) : addRecord shapes target.plainText patch =
            shapes.put target.plainText (record.overlay patch) := by
          rw [addRecord, known, Option.getD_some]
        rw [if_pos member]
        exact (laid _).symm
  | _ => rfl

theorem applyOverrides_eq (shapes : Shapes) (patches : List Json) :
    applyOverrides shapes patches =
      addAll shapes ((patches.filterMap (patchScope? shapes.keys)).flatMap contributed) := by
  induction patches generalizing shapes with
  | nil => rfl
  | cons patch rest ih =>
    have step : applyOverrides shapes (patch :: rest) =
        applyOverrides (applyOverride shapes patch) rest := rfl
    have split : (patch :: rest).filterMap (patchScope? shapes.keys) =
        (patchScope? shapes.keys patch).toList ++ rest.filterMap (patchScope? shapes.keys) := by
      rw [List.filterMap_cons]
      cases patchScope? shapes.keys patch <;> rfl
    -- No patch changes which shapes there are, so the later ones find the names that they look for.
    rw [step, ih, keys_applyOverride, applyOverride_eq, split, List.flatMap_append, addAll_append]

/-! ## What patches do to a shape -/

theorem patchOf_eq_nil {id : String} {patch : Json} (other : ¬ Names id patch) :
    patchOf id patch = [] := by
  unfold patchOf
  split
  · rfl
  split
  · rfl
  next fields isRecord _ target given =>
    refine if_neg fun same => other ?_
    cases patch with
    | obj own =>
      cases isRecord
      exact ⟨fields, target, rfl, given, same⟩
    | _ => cases isRecord

theorem last?_patchOf_shape (id : String) (patch : Json) :
    last? (patchOf id patch) "shape" = none := by
  unfold patchOf
  split
  · rfl
  split
  · rfl
  split
  · rw [last?_erase, if_pos rfl]
  · rfl

theorem patchesOf_cons (id : String) (patch : Json) (rest : List Json) :
    patchesOf id (patch :: rest) = patchOf id patch ++ patchesOf id rest :=
  List.flatMap_cons

theorem last?_patchesOf_shape (id : String) (patches : List Json) :
    last? (patchesOf id patches) "shape" = none := by
  induction patches with
  | nil => rfl
  | cons patch rest ih =>
    rw [patchesOf_cons, last?_append, ih, last?_patchOf_shape, Option.or_none]

theorem patchesOf_eq_nil {id : String} {patches : List Json}
    (other : ∀ patch ∈ patches, ¬ Names id patch) : patchesOf id patches = [] :=
  List.flatMap_eq_nil_iff.mpr fun patch member => patchOf_eq_nil (other patch member)

/-- The patches of a slide are further scopes, one for each that names a merged shape. They keep
the shapes and their order, change no shape that none of them names and no field called shape, and
of those that give a field of one shape the last one decides. -/
theorem applyOverrides_mergeShapes (scopes patches : List Json) :
    applyOverrides (mergeShapes scopes) patches =
      mergeShapes (scopes ++ patches.filterMap (patchScope? (mergeShapes scopes).keys)) ∧
    (applyOverrides (mergeShapes scopes) patches).keys = (mergeShapes scopes).keys ∧
    ∀ id record, (mergeShapes scopes).get? id = some record →
      ∃ patched, (applyOverrides (mergeShapes scopes) patches).get? id = some patched ∧
        ((∀ patch ∈ patches, ¬ Names id patch) → patched = record) ∧
        patched.get? "shape" = record.get? "shape" ∧
        ∀ name, patched.get? name = (last? (patchesOf id patches) name).or (record.get? name) := by
  refine ⟨?_, keys_applyOverrides _ _, fun id record known => ?_⟩
  · rw [applyOverrides_eq, mergeShapes_eq (scopes ++ _), List.flatMap_append, addAll_append,
      ← mergeShapes_eq]
  · refine ⟨record.overlay (patchesOf id patches), ?_, fun other => ?_, ?_, fun name => ?_⟩
    · rw [get?_applyOverrides, known, Option.map_some]
    · rw [patchesOf_eq_nil other, overlay_nil]
    · rw [get?_overlay, last?_patchesOf_shape, Option.none_or]
    · exact get?_overlay record _ name

/-! A shape that is named twice, once by a number, and one that no scope has; a record with a field
called shape of its own. -/

def patchedScope : Json :=
  .obj [("7", .obj [("x", .int 1), ("shape", .str "old")]), ("b", .obj [])]

def mixedPatches : List Json :=
  [.obj [("shape", .int 7), ("x", .int 2), ("y", .null)], .str "7",
    .obj [("shape", .str "c"), ("x", .int 9)], .obj [("x", .int 3), ("shape", .str "7")]]

theorem applyOverrides_mergeShapes_mixed :
    applyOverrides (mergeShapes [patchedScope]) mixedPatches =
      mergeShapes [patchedScope, .obj [("7", .obj [("x", .int 2), ("y", .null)])],
        .obj [("7", .obj [("x", .int 3)])]] ∧
    ∃ patched, (applyOverrides (mergeShapes [patchedScope]) mixedPatches).get? "7" = some patched ∧
      patched.get? "shape" = some (.str "old") ∧ patched.get? "x" = some (.int 3) := by
  obtain ⟨scopes, -, shapes⟩ := applyOverrides_mergeShapes [patchedScope] mixedPatches
  obtain ⟨patched, known, -, own, fields⟩ := shapes "7" [("x", .int 1), ("shape", .str "old")] rfl
  exact ⟨scopes, patched, known, own, fields "x"⟩

end DeckPress.Cascade
