import DeckPress.Proofs.Cascade.Merge

/-!
Patches of a slide. A patch lays its fields, without the name of its target, over one shape, and no
patch adds or drops a shape. So what becomes of a shape can be read off its layers: one for each
scope, and on top one for all patches that name it.
-/

namespace DeckPress.Cascade

open Record

/-- The fields that a patch lays over a shape; none when it names another one. -/
def patchOf (id : String) (patch : Json) : Record Json :=
  match patch.fields? with
  | none => []
  | some fields =>
    match Json.given? fields "shape" with
    | none => []
    | some target => if target.plainText = id then fields.erase "shape" else []

def patchesOf (id : String) (patches : List Json) : Record Json :=
  patches.flatMap (patchOf id)

theorem get?_applyOverride (shapes : Shapes) (patch : Json) (id : String) :
    get? (applyOverride shapes patch) id =
      (get? shapes id).map fun record => record.overlay (patchOf id patch) := by
  have unchanged : get? shapes id = (get? shapes id).map fun record => record.overlay [] := by
    cases get? shapes id <;> rfl
  cases isRecord : patch.fields? with
  | none =>
    simp only [applyOverride, patchOf, isRecord]
    exact unchanged
  | some fields =>
    cases named : Json.given? fields "shape" with
    | none =>
      simp only [applyOverride, patchOf, isRecord, named]
      exact unchanged
    | some target =>
      simp only [applyOverride, patchOf, isRecord, named]
      by_cases same : target.plainText = id
      · subst same
        cases known : get? shapes target.plainText with
        | none => simp [known]
        | some record => simp
      · cases target_known : get? shapes target.plainText with
        | none => simpa only [if_neg same] using unchanged
        | some record =>
          simpa only [if_neg same, get?_put_of_ne _ _ same] using unchanged

/-- What patches leave of a shape: its record under all the fields that they lay over it. -/
theorem get?_applyOverrides (shapes : Shapes) (patches : List Json) (id : String) :
    get? (applyOverrides shapes patches) id =
      (get? shapes id).map fun record => record.overlay (patchesOf id patches) := by
  induction patches generalizing shapes with
  | nil => cases known : get? shapes id <;> simp [applyOverrides, patchesOf, known]
  | cons patch rest ih =>
    have step : applyOverrides shapes (patch :: rest) =
        applyOverrides (applyOverride shapes patch) rest := rfl
    rw [step, ih, get?_applyOverride, Option.map_map]
    congr 1
    funext record
    exact (overlay_append record (patchOf id patch) (patchesOf id rest)).symm

/-! ## The layers of a shape -/

/-- What a scope alone says of a shape. -/
def layerOf (id : String) (scope : Json) : Record Json :=
  (get? (shapesOf scope) id).getD []

/-- The layers of a shape, the least specific first: the scopes, then the patches. -/
def layersOf (id : String) (scopes patches : List Json) : List (Record Json) :=
  scopes.map (layerOf id) ++ [ofEntries (patchesOf id patches)]

def top? (layers : List (Record Json)) (name : String) : Option Json :=
  layers.reverse.findSome? fun layer => get? layer name

theorem top?_append (lower upper : List (Record Json)) (name : String) :
    top? (lower ++ upper) name = (top? upper name).or (top? lower name) := by
  rw [top?, List.reverse_append, List.findSome?_append]
  rfl

theorem top?_singleton (layer : Record Json) (name : String) :
    top? [layer] name = get? layer name := by
  cases found : get? layer name <;> simp [top?, found]

theorem top?_isSome {layers : List (Record Json)} {layer : Record Json} (member : layer ∈ layers)
    {name : String} (given : (get? layer name).isSome) : (top? layers name).isSome := by
  rw [top?, List.findSome?_isSome_iff]
  exact ⟨layer, List.mem_reverse.mpr member, given⟩

theorem layerOf_eq (id : String) (scope : Json) :
    layerOf id scope = ofEntries (fieldsUnder id (contributed scope)) := by
  rw [layerOf, shapesOf_eq, get?_addAll]
  by_cases present : id ∈ keys (contributed scope)
  · rw [if_pos present]
    rfl
  · rw [if_neg present, fieldsUnder_eq_nil present]
    rfl

theorem last?_fieldsUnder (id : String) (scopes : List Json) (name : String) :
    last? (fieldsUnder id (scopes.flatMap contributed)) name =
      top? (scopes.map (layerOf id)) name := by
  induction scopes using List.reverseRecOn with
  | nil => rfl
  | append_singleton scopes scope ih =>
    rw [List.flatMap_append, List.flatMap_singleton, fieldsUnder_append, last?_append, ih,
      List.map_append, List.map_singleton, top?_append, top?_singleton, layerOf_eq,
      get?_ofEntries]

/-- A field of a merged and patched shape has the value of the most specific layer that has it. -/
theorem get?_of_layers {id : String} {scopes patches : List Json} {record : Record Json}
    (known : get? (applyOverrides (mergeShapes scopes) patches) id = some record) (name : String) :
    get? record name = top? (layersOf id scopes patches) name := by
  rw [get?_applyOverrides] at known
  obtain ⟨base, merged, rfl⟩ := Option.map_eq_some_iff.mp known
  have below : get? base name = top? (scopes.map (layerOf id)) name := by
    rw [get?_mergeShapes] at merged
    split at merged
    · cases merged
      rw [get?_ofEntries, last?_fieldsUnder]
    · cases merged
  rw [get?_overlay, below, layersOf, top?_append, top?_singleton, get?_ofEntries]

theorem distinct_of_layers {id : String} {scopes patches : List Json} {record : Record Json}
    (known : get? (applyOverrides (mergeShapes scopes) patches) id = some record) :
    Distinct record := by
  rw [get?_applyOverrides] at known
  obtain ⟨base, merged, rfl⟩ := Option.map_eq_some_iff.mp known
  exact distinct_overlay ((tidy_mergeShapes scopes).fields id base merged) _

end DeckPress.Cascade
