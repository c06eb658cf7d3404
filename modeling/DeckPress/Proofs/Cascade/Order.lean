import Mathlib.Data.List.Forall2
import DeckPress.Proofs.Cascade.Height

/-!
The order of shapes, seen from two runs. Sorting is stable, so shapes may be left out before it or
after it; and shapes that differ in nothing but what heights do not depend on are put in the same
order.
-/

namespace DeckPress.Cascade

open Record

/-! ## Sorting by a key -/

section Sorting

variable {α β : Type} {f : α → Int}

theorem key_trans (f : α → Int) (a b c : α) : decide (f a ≤ f b) = true →
    decide (f b ≤ f c) = true → decide (f a ≤ f c) = true := by
  simp only [decide_eq_true_eq]
  omega

theorem key_total (f : α → Int) (a b : α) : (decide (f a ≤ f b) || decide (f b ≤ f a)) = true := by
  simp only [Bool.or_eq_true, decide_eq_true_eq]
  omega

theorem cut_unique {p : α → Bool} {xs ys zs ws : List α} (same : xs ++ ys = zs ++ ws)
    (first : ∀ x ∈ xs, p x = true) (others : ∀ y ∈ ys, p y = false)
    (start : ∀ z ∈ zs, p z = true) (rest : ∀ w ∈ ws, p w = false) : xs = zs ∧ ys = ws := by
  have kept (us vs : List α) (yes : ∀ u ∈ us, p u = true) (no : ∀ v ∈ vs, p v = false) :
      (us ++ vs).filter p = us := by
    rw [List.filter_append, List.filter_eq_self.mpr yes,
      List.filter_eq_nil_iff.mpr fun v member => by simp [no v member], List.append_nil]
  have heads : xs = zs := by
    rw [← kept xs ys first others, same, kept zs ws start rest]
  subst heads
  exact ⟨rfl, List.append_cancel_left same⟩

theorem mergeSort_filter (p : α → Bool) (xs : List α) :
    (xs.filter p).mergeSort (fun a b => f a ≤ f b) =
      (xs.mergeSort fun a b => f a ≤ f b).filter p := by
  have trans := key_trans f
  have total := key_total f
  induction xs with
  | nil => rw [List.filter_nil, List.mergeSort_nil, List.filter_nil]
  | cons x xs ih =>
    obtain ⟨lower, upper, whole, others, below⟩ := List.mergeSort_cons trans total x xs
    by_cases kept : p x = true
    · -- The first element stands behind what is lower than it, and before the rest.
      obtain ⟨low, up, sorted, rest, less⟩ := List.mergeSort_cons trans total x (xs.filter p)
      have above : ∀ ys zs : List α, (ys ++ x :: zs).Pairwise (fun a b => decide (f a ≤ f b)) →
          ∀ z ∈ zs, (!decide (f x ≤ f z)) = false := by
        intro ys zs ordered z member
        have after := (List.pairwise_cons.mp (List.pairwise_append.mp ordered).2.1).1 z member
        simpa using after
      have same : low ++ up = lower.filter p ++ upper.filter p := by
        rw [← rest, ih, others, List.filter_append]
      obtain ⟨rfl, rfl⟩ := cut_unique same less
        (above low up (sorted ▸ List.pairwise_mergeSort trans total _))
        (fun z member => below z (List.mem_of_mem_filter member))
        (fun z member => above lower upper (whole ▸ List.pairwise_mergeSort trans total _) z
          (List.mem_of_mem_filter member))
      rw [List.filter_cons_of_pos kept, sorted, whole, List.filter_append,
        List.filter_cons_of_pos kept]
    · rw [List.filter_cons_of_neg kept, ih, whole, others, List.filter_append, List.filter_append,
        List.filter_cons_of_neg kept]

theorem mergeSort_related {R : α → β → Prop} {g : β → Int} (keys : ∀ a b, R a b → f a = g b)
    {xs : List α} {ys : List β} (related : List.Forall₂ R xs ys) :
    List.Forall₂ R (xs.mergeSort fun a b => f a ≤ f b) (ys.mergeSort fun a b => g a ≤ g b) := by
  obtain ⟨pairs, rfl, rfl, each⟩ : ∃ pairs : List (α × β), xs = pairs.map (·.1) ∧
      ys = pairs.map (·.2) ∧ ∀ pair ∈ pairs, R pair.1 pair.2 := by
    induction related with
    | nil => exact ⟨[], rfl, rfl, nofun⟩
    | @cons a b _ _ here _ ih =>
      obtain ⟨pairs, rfl, rfl, each⟩ := ih
      exact ⟨(a, b) :: pairs, rfl, rfl, List.forall_mem_cons.mpr ⟨here, each⟩⟩
  have left : (pairs.mergeSort fun p q => f p.1 ≤ f q.1).map (·.1) =
      (pairs.map (·.1)).mergeSort fun a b => f a ≤ f b :=
    List.map_mergeSort fun _ _ _ _ => rfl
  have right : (pairs.mergeSort fun p q => f p.1 ≤ f q.1).map (·.2) =
      (pairs.map (·.2)).mergeSort fun a b => g a ≤ g b := by
    refine List.map_mergeSort fun p here q there => ?_
    rw [keys _ _ (each p here), keys _ _ (each q there)]
  rw [← left, ← right, List.forall₂_map_left_iff, List.forall₂_map_right_iff, List.forall₂_same]
  exact fun pair member => each pair (List.mem_mergeSort.mp member)

end Sorting

/-! ## Sorting shapes -/

theorem sortByZ_eq_ok {shapes ordered : Shapes} :
    sortByZ shapes = .ok ordered ↔ ∃ placed : List (Int × String × Record Json),
      (∀ entry ∈ placed, ∃ z, zValue entry.2.2 = .ok z ∧ entry.1 = Decimal.rank z) ∧
      shapes = placed.map (·.2) ∧
      ordered = (placed.mergeSort fun a b => a.1 ≤ b.1).map (·.2) := by
  have step (entry : String × Record Json) (found : Int × String × Record Json) :
      (do return (Decimal.rank (← zValue entry.2), entry)) =
        (.ok found : Except NumberError _) ↔
      (∃ z, zValue found.2.2 = .ok z ∧ found.1 = Decimal.rank z) ∧ found.2 = entry := by
    constructor
    · intro done
      obtain ⟨z, height, same⟩ := bind_eq_ok.mp done
      cases same
      exact ⟨⟨z, height, rfl⟩, rfl⟩
    · rintro ⟨⟨z, height, rank⟩, rfl⟩
      obtain ⟨_, id, record⟩ := found
      cases rank
      exact bind_eq_ok.mpr ⟨z, height, rfl⟩
  unfold sortByZ
  simp only [bind_eq_ok, mapM_eq_ok_iff, step]
  constructor
  · rintro ⟨placed, walk, same⟩
    cases same
    obtain ⟨heights, own⟩ := (List.forall₂_and_left placed shapes).mp walk.flip
    refine ⟨placed, heights, ?_, rfl⟩
    rw [← List.forall₂_eq_eq_eq, List.forall₂_map_right_iff]
    exact own.flip.imp fun _ _ same => same.symm
  · rintro ⟨placed, heights, rfl, rfl⟩
    refine ⟨placed, ?_, rfl⟩
    rw [List.forall₂_map_left_iff, List.forall₂_same]
    exact fun entry member => ⟨heights entry member, rfl⟩

theorem sortByZ_pairwise {shapes ordered : Shapes} (sorted : sortByZ shapes = .ok ordered) :
    ordered.Pairwise fun a b => ∃ y z, zValue a.2 = .ok y ∧ zValue b.2 = .ok z ∧
      Decimal.rank y ≤ Decimal.rank z := by
  obtain ⟨placed, heights, -, rfl⟩ := sortByZ_eq_ok.mp sorted
  have ascending : (placed.mergeSort fun a b => a.1 ≤ b.1).Pairwise
      fun a b => decide (a.1 ≤ b.1) = true :=
    List.pairwise_mergeSort (key_trans _) (key_total _) placed
  rw [List.pairwise_map]
  refine ascending.imp_of_mem fun {a b} here there below => ?_
  obtain ⟨y, low, own⟩ := heights a (List.mem_mergeSort.mp here)
  obtain ⟨z, high, other⟩ := heights b (List.mem_mergeSort.mp there)
  rw [own, other] at below
  exact ⟨y, z, low, high, of_decide_eq_true below⟩

theorem sortByZ_filter {shapes ordered : Shapes} (keep : String × Record Json → Bool)
    (sorted : sortByZ shapes = .ok ordered) :
    sortByZ (shapes.filter keep) = .ok (ordered.filter keep) := by
  obtain ⟨placed, heights, rfl, rfl⟩ := sortByZ_eq_ok.mp sorted
  refine sortByZ_eq_ok.mpr ⟨placed.filter (keep ∘ (·.2)), ?_, ?_, ?_⟩
  · exact fun entry member => heights entry (List.mem_of_mem_filter member)
  · rw [List.filter_map]
  · rw [List.filter_map, mergeSort_filter]

/-! ## Shapes side by side -/

/-- The same shape ids in the same order, with records that are related. -/
def Paired (R : Record Json → Record Json → Prop) (xs ys : Shapes) : Prop :=
  List.Forall₂ (fun a b => a.1 = b.1 ∧ R a.2 b.2) xs ys

section Paired

variable {R : Record Json → Record Json → Prop} {xs ys : Shapes}

theorem zValue_congr {r s : Record Json} (height : get? r "z" = get? s "z") :
    zValue r = zValue s := by
  rw [zValue, zValue, height]

theorem Paired.sortByZ (paired : Paired R xs ys)
    (heights : ∀ r s, R r s → get? r "z" = get? s "z") :
    InStep (Paired R) (sortByZ xs) (sortByZ ys) := by
  have placed : InStep (List.Forall₂ fun a b => a.1 = b.1 ∧ a.2.1 = b.2.1 ∧ R a.2.2 b.2.2)
      (xs.mapM fun entry => do return (Decimal.rank (← zValue entry.2), entry))
      (ys.mapM fun entry => do return (Decimal.rank (← zValue entry.2), entry)) := by
    refine InStep.mapM (fun a b here => ?_) paired
    rw [zValue_congr (heights _ _ here.2)]
    exact (InStep.of_eq rfl).bind fun z w same => .ok ⟨congrArg Decimal.rank same, here⟩
  refine placed.bind fun before after related => .ok ?_
  unfold Paired
  rw [List.forall₂_map_left_iff, List.forall₂_map_right_iff]
  exact (mergeSort_related (fun _ _ here => here.1) related).imp fun _ _ here => here.2

theorem Paired.backgroundZ (paired : Paired R xs ys)
    (heights : ∀ r s, R r s → get? r "z" = get? s "z") : backgroundZ xs = backgroundZ ys := by
  have stacked := List.rel_filter (p := fun entry => (Json.given? entry.2 "z").isSome)
    (q := fun entry => (Json.given? entry.2 "z").isSome)
    (fun a b here => by simp only [Json.given?, heights _ _ here.2]) paired
  refine InStep.eq (InStep.bind (R := List.Forall₂ Eq) (InStep.mapM (fun a b here => ?_) stacked)
    fun floors levels same => .ok ?_)
  · rw [zValue_congr (heights _ _ here.2)]
    exact .of_eq rfl
  · rw [List.forall₂_eq_eq_eq] at same
    rw [same]

end Paired

end DeckPress.Cascade
