import DeckPress.Proofs.Cascade.Merge

/-!
Layers that are laid over each other beforehand. Some of the layers of a cascade may be put
together first and the rest laid over the result or below it: values and order stay the same,
for single records and for shapes.
-/

namespace DeckPress.Cascade

open Record

/-- The fields of a layer; none of a value that is no record. -/
def fieldsOf (layer : Json) : Record Json :=
  layer.fields?.getD []

theorem overlayFields_eq (layers : List Json) :
    overlayFields layers = ofEntries (layers.flatMap fieldsOf) := by
  rw [ofEntries, overlay, List.foldl_flatMap]
  rfl

theorem ofEntries_append (xs ys : Record Json) : ofEntries (xs ++ ys) = (ofEntries xs).overlay ys :=
  overlay_append [] xs ys

theorem overlayFields_regroup (lower inner upper : List Json) :
    overlayFields (lower ++ .obj (overlayFields inner) :: upper) =
      overlayFields (lower ++ inner ++ upper) := by
  have own : fieldsOf (.obj (overlayFields inner)) = ofEntries (inner.flatMap fieldsOf) :=
    overlayFields_eq inner
  rw [overlayFields_eq (_ ++ upper), overlayFields_eq (lower ++ _ :: upper), List.flatMap_append,
    List.flatMap_cons, own, List.flatMap_append, List.flatMap_append]
  simp only [ofEntries_append, overlay_append, overlay_ofEntries (distinct_ofEntries _)]

def asScope (shapes : Shapes) : Json :=
  .obj (shapes.map fun entry => (entry.1, .obj entry.2))

theorem contributed_asScope (shapes : Shapes) : contributed (asScope shapes) = shapes := by
  unfold asScope contributed
  induction shapes with
  | nil => rfl
  | cons entry rest ih =>
    obtain ⟨id, record⟩ := entry
    exact congrArg ((id, record) :: ·) ih

/-- The lowest scopes may be merged first. -/
theorem mergeShapes_regroup (lower upper : List Json) :
    mergeShapes (asScope (mergeShapes lower) :: upper) = mergeShapes (lower ++ upper) := by
  rw [mergeShapes_eq (_ :: upper), mergeShapes_eq (lower ++ upper), List.flatMap_cons,
    contributed_asScope, mergeShapes_eq lower, List.flatMap_append, addAll_append, addAll_append,
    addAll_gathered tidy_nil]

theorem mergeShapes_null (lower upper : List Json) :
    mergeShapes (lower ++ .null :: upper) = mergeShapes (lower ++ upper) := by
  have nothing : contributed .null = [] := rfl
  rw [mergeShapes_eq, mergeShapes_eq, List.flatMap_append, List.flatMap_append, List.flatMap_cons,
    nothing, List.nil_append]

end DeckPress.Cascade
