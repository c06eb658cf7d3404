import DeckPress.Proofs.Cascade.Merge
import DeckPress.Proofs.Entity.Lenient

/-!
Shapes without one of them. Taking a shape out of each scope, out of the merged shapes or out of the
patched ones comes to the same: no other shape's record or place depends on it, and patches that
name it have nothing left to change.
-/

namespace DeckPress

open Record

namespace Record

variable {α : Type}

theorem get?_erase (r : Record α) (key name : String) :
    (r.erase key).get? name = if name = key then none else r.get? name := by
  have kept : (r.erase key).get? name = if decide (name ≠ key) then r.get? name else none :=
    get?_filter_keys r (fun other => decide (other ≠ key)) name
  rw [kept]
  by_cases same : name = key
  · simp [same]
  · simp [same]

theorem erase_put_self (r : Record α) (key : String) (value : α) :
    (r.put key value).erase key = r.erase key := by
  induction r with
  | nil => simp [put, erase]
  | cons field rest ih =>
    by_cases here : field.1 = key
    · simp [put, erase, here]
    · simpa [put, erase, here] using ih

theorem erase_put_of_ne (r : Record α) {key other : String} (value : α) (apart : key ≠ other) :
    (r.put key value).erase other = (r.erase other).put key value := by
  induction r with
  | nil => simp [put, erase, apart]
  | cons field rest ih =>
    by_cases here : field.1 = key
    · have kept : field.1 ≠ other := fun same => apart (here.symm.trans same)
      simp [put, erase, here, apart]
    · by_cases gone : field.1 = other
      · subst gone
        simpa [put, erase, here] using ih
      · simpa [put, erase, here, gone] using ih

end Record

namespace Cascade

theorem addRecord_erase (shapes : Shapes) {id other : String} (record : Record Json)
    (apart : other ≠ id) :
    addRecord (erase shapes id) other record = erase (addRecord shapes other record) id := by
  have known : get? (erase shapes id) other = get? shapes other := by
    rw [get?_erase, if_neg apart]
  rw [addRecord, addRecord, known, erase_put_of_ne _ _ apart]

/-- Entries of a shape may be left out when the shape is. -/
theorem addAll_erase (shapes : Shapes) (entries : List (String × Record Json)) (id : String) :
    addAll (erase shapes id) (erase entries id) = erase (addAll shapes entries) id := by
  induction entries generalizing shapes with
  | nil => rfl
  | cons entry rest ih =>
    by_cases here : entry.1 = id
    · have gone : erase (entry :: rest) id = erase rest id := by simp [erase, here]
      have unchanged : erase (addRecord shapes entry.1 entry.2) id = erase shapes id := by
        rw [here]
        exact erase_put_self shapes id _
      have step := ih (addRecord shapes entry.1 entry.2)
      rw [unchanged] at step
      rw [gone, step]
      rfl
    · have kept : erase (entry :: rest) id = entry :: erase rest id := by simp [erase, here]
      have step := ih (addRecord shapes entry.1 entry.2)
      rw [← addRecord_erase shapes entry.2 here] at step
      rw [kept]
      exact step

/-- A scope without one of its shapes. Only scopes that name their shapes can be without one. -/
def Scope.without (id : String) : Json → Json
  | .obj shapes => .obj (erase shapes id)
  | scope => scope

theorem contributedFields_erase (shapes : Record Json) (id : String) :
    contributedFields (erase shapes id) = erase (contributedFields shapes) id := by
  induction shapes with
  | nil => rfl
  | cons shape rest ih =>
    obtain ⟨own, value⟩ := shape
    by_cases here : own = id
    · have gone : erase ((own, value) :: rest) id = erase rest id := by simp [erase, here]
      rw [gone, ih]
      cases value with
      | obj record => simp [contributedFields, erase, here]
      | _ => rfl
    · have kept : erase ((own, value) :: rest) id = (own, value) :: erase rest id := by
        simp [erase, here]
      rw [kept]
      cases value with
      | obj record =>
        rw [contributedFields, contributedFields, ih]
        simp [erase, here]
      | _ => exact ih

theorem contributed_without {scope : Json} (keyed : ∀ items, scope ≠ .arr items) (id : String) :
    contributed (Scope.without id scope) = erase (contributed scope) id := by
  cases scope with
  | obj shapes => exact contributedFields_erase shapes id
  | arr items => exact absurd rfl (keyed items)
  | _ => rfl

theorem mergeShapes_without {scopes : List Json}
    (keyed : ∀ scope ∈ scopes, ∀ items, scope ≠ .arr items) (id : String) :
    mergeShapes (scopes.map (Scope.without id)) = erase (mergeShapes scopes) id := by
  have entries : (scopes.map (Scope.without id)).flatMap contributed =
      erase (scopes.flatMap contributed) id := by
    rw [List.flatMap_map, erase, List.filter_flatMap]
    exact List.flatMap_congr fun scope member => contributed_without (keyed scope member) id
  rw [mergeShapes_eq, mergeShapes_eq, entries]
  exact addAll_erase [] _ id

theorem applyOverride_erase (shapes : Shapes) (patch : Json) (id : String) :
    applyOverride (erase shapes id) patch = erase (applyOverride shapes patch) id := by
  unfold applyOverride
  cases patch.fields? with
  | none => rfl
  | some fields =>
    dsimp only
    cases Json.given? fields "shape" with
    | none => rfl
    | some target =>
      dsimp only
      rw [get?_erase]
      by_cases here : target.plainText = id
      · rw [if_pos here]
        cases known : get? shapes target.plainText with
        | none => rfl
        | some record =>
          dsimp only
          rw [here, erase_put_self]
      · rw [if_neg here]
        cases get? shapes target.plainText with
        | none => rfl
        | some record =>
          dsimp only
          rw [erase_put_of_ne _ _ here]

theorem applyOverrides_erase (shapes : Shapes) (patches : List Json) (id : String) :
    applyOverrides (erase shapes id) patches = erase (applyOverrides shapes patches) id := by
  induction patches generalizing shapes with
  | nil => rfl
  | cons patch rest ih =>
    have step := ih (applyOverride shapes patch)
    rw [← applyOverride_erase] at step
    exact step

end Cascade

end DeckPress
