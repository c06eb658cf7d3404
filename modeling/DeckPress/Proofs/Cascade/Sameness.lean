import DeckPress.Proofs.Cascade.Erasure
import DeckPress.Proofs.Cascade.Order
import DeckPress.Proofs.Cascade.Regroup
import DeckPress.Proofs.Entity.Agreement

/-!
The cascade over records that are the same in what counts. Layers that have the same first and last
values under the names that count come to records that do, whatever else stands in them and in
whichever order; and shapes keep their ids and their places.
-/

namespace DeckPress.Cascade

open Record

/-- Records in which no name stands twice, with the same under the names that count. -/
structure SameRecords (counts : String → Prop) (r s : Record Json) : Prop where
  left : Distinct r
  right : Distinct s
  values : ∀ name, counts name → get? r name = get? s name

def SameEntries (counts : String → Prop) (xs ys : List (String × Record Json)) : Prop :=
  List.Forall₂ (fun a b => a.1 = b.1 ∧ SameOn counts a.2 b.2) xs ys

section Paired

variable {R : Record Json → Record Json → Prop} {xs ys : Shapes}

theorem Paired.get? (paired : Paired R xs ys) (id : String) :
    Option.Rel R (Record.get? xs id) (Record.get? ys id) := by
  induction paired with
  | nil => exact .none
  | @cons a b _ _ here _ ih =>
    by_cases own : a.1 = id
    · have there : b.1 = id := here.1 ▸ own
      simp only [Record.get?, own, there, if_true]
      exact .some here.2
    · have there : ¬ b.1 = id := here.1 ▸ own
      simpa only [Record.get?, own, there, if_false] using ih

theorem Paired.put (paired : Paired R xs ys) (id : String) {r s : Record Json} (same : R r s) :
    Paired R (Record.put xs id r) (Record.put ys id s) := by
  induction paired with
  | nil => exact .cons ⟨rfl, same⟩ .nil
  | @cons a b _ _ here rest ih =>
    by_cases own : a.1 = id
    · have there : b.1 = id := here.1 ▸ own
      simp only [Record.put, own, there, if_true]
      exact .cons ⟨rfl, same⟩ rest
    · have there : ¬ b.1 = id := here.1 ▸ own
      simp only [Record.put, own, there, if_false]
      exact .cons here ih

end Paired

section Same

variable {counts : String → Prop}

theorem SameRecords.overlay {r s a b : Record Json} (same : SameRecords counts r s)
    (layers : SameOn counts a b) : SameRecords counts (r.overlay a) (s.overlay b) := by
  refine ⟨distinct_overlay same.left a, distinct_overlay same.right b, fun name counted => ?_⟩
  rw [get?_overlay, get?_overlay, layers.last name counted, same.values name counted]

theorem addRecord_same {xs ys : Shapes} (paired : Paired (SameRecords counts) xs ys) (id : String)
    {r s : Record Json} (records : SameOn counts r s) :
    Paired (SameRecords counts) (addRecord xs id r) (addRecord ys id s) := by
  have known : SameRecords counts ((get? xs id).getD []) ((get? ys id).getD []) := by
    have here := paired.get? id
    generalize get? xs id = left at here ⊢
    generalize get? ys id = right at here ⊢
    cases here with
    | none => exact ⟨distinct_nil, distinct_nil, fun _ _ => rfl⟩
    | some same => exact same
  exact paired.put id (known.overlay records)

theorem addAll_same {xs ys : Shapes} (paired : Paired (SameRecords counts) xs ys)
    {before after : List (String × Record Json)} (entries : SameEntries counts before after) :
    Paired (SameRecords counts) (addAll xs before) (addAll ys after) := by
  induction entries generalizing xs ys with
  | nil => exact paired
  | @cons a b _ _ here _ ih =>
    obtain ⟨id, record⟩ := a
    obtain ⟨other, changed⟩ := b
    obtain ⟨rfl, records⟩ := here
    exact ih (addRecord_same paired id records)

theorem mergeShapes_same {scopes others : List Json}
    (entries : SameEntries counts (scopes.flatMap contributed) (others.flatMap contributed)) :
    Paired (SameRecords counts) (mergeShapes scopes) (mergeShapes others) := by
  rw [mergeShapes_eq, mergeShapes_eq]
  exact addAll_same .nil entries

theorem last?_erase (r : Record Json) (key name : String) :
    last? (erase r key) name = if name = key then none else last? r name := by
  have turned : (erase r key).reverse = erase r.reverse key := (List.filter_reverse ..).symm
  rw [last?, turned, get?_erase]
  rfl

theorem SameOn.erase {r s : Record Json} (same : SameOn counts r s) (key : String) :
    SameOn counts (erase r key) (erase s key) := by
  constructor
  · intro name counted
    rw [get?_erase, get?_erase, same.first name counted]
  · intro name counted
    rw [last?_erase, last?_erase, same.last name counted]

/-- Patches that name the same shape and lay the same over it in what counts. -/
inductive SamePatches (counts : String → Prop) : Json → Json → Prop where
  | same (patch : Json) : SamePatches counts patch patch
  | fields {r s : Record Json} (target : get? r "shape" = get? s "shape")
      (records : SameOn counts r s) : SamePatches counts (.obj r) (.obj s)

theorem applyOverride_same {xs ys : Shapes} (paired : Paired (SameRecords counts) xs ys)
    {patch other : Json} (patches : SamePatches counts patch other) :
    Paired (SameRecords counts) (applyOverride xs patch) (applyOverride ys other) := by
  have step {r s : Record Json} (target : get? r "shape" = get? s "shape")
      (records : SameOn counts r s) :
      Paired (SameRecords counts) (applyOverride xs (.obj r)) (applyOverride ys (.obj s)) := by
    have named : Json.given? r "shape" = Json.given? s "shape" := by
      unfold Json.given?
      rw [target]
    unfold applyOverride
    dsimp only [Json.fields?]
    rw [named]
    cases Json.given? s "shape" with
    | none => exact paired
    | some shape =>
      have here := paired.get? shape.plainText
      dsimp only
      generalize get? xs shape.plainText = left at here ⊢
      generalize get? ys shape.plainText = right at here ⊢
      cases here with
      | none => exact paired
      | some same => exact paired.put _ (same.overlay (SameOn.erase records "shape"))
  cases patches with
  | fields target records => exact step target records
  | same =>
    cases patch with
    | obj r => exact step rfl (.refl r)
    | _ => exact paired

theorem applyOverrides_same {xs ys : Shapes} (paired : Paired (SameRecords counts) xs ys)
    {patches others : List Json} (each : List.Forall₂ (SamePatches counts) patches others) :
    Paired (SameRecords counts) (applyOverrides xs patches) (applyOverrides ys others) := by
  induction each generalizing xs ys with
  | nil => exact paired
  | cons here _ ih => exact ih (applyOverride_same paired here)

theorem overlayFields_same {layers others : List Json}
    (each : List.Forall₂ (fun a b => SameOn counts (fieldsOf a) (fieldsOf b)) layers others) :
    SameRecords counts (overlayFields layers) (overlayFields others) := by
  rw [overlayFields_eq, overlayFields_eq]
  refine ⟨distinct_ofEntries _, distinct_ofEntries _, fun name counted => ?_⟩
  rw [get?_ofEntries, get?_ofEntries]
  induction each with
  | nil => rfl
  | cons here _ ih =>
    rw [List.flatMap_cons, List.flatMap_cons, last?_append, last?_append, ih,
      here.last name counted]

theorem SameRecords.erase {r s : Record Json} (same : SameRecords counts r s) (key : String) :
    SameRecords counts (erase r key) (erase s key) := by
  refine ⟨?_, ?_, fun name counted => ?_⟩
  · exact same.left.sublist (List.filter_sublist.map _)
  · exact same.right.sublist (List.filter_sublist.map _)
  · rw [get?_erase, get?_erase, same.values name counted]

end Same

end DeckPress.Cascade
