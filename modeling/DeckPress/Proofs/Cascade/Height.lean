import DeckPress.Cascade
import DeckPress.Proofs.Trace

/-!
Values as heights. A whole number beyond the range of doubles is the one value that no double
stands for, not even a default; shapes can be put in order, and a background under them, exactly
when none of them has such a height.
-/

namespace DeckPress

/-- A whole number for which no double stands. -/
def Json.Oversized (j : Json) : Prop :=
  ∃ n, j = .int n ∧ Decimal.integerBound ≤ n.natAbs

theorem Decimal.ofInt?_eq_none {n : Int} :
    Decimal.ofInt? n = none ↔ Decimal.integerBound ≤ n.natAbs := by
  -- The bound is kept folded: its value is of no use here.
  unfold Decimal.ofInt?
  generalize Decimal.integerBound = bound
  by_cases small : n.natAbs < bound
  · simp [small]
  · simp [small, Nat.le_of_not_lt small]

theorem Json.oversized_int {n : Int} : (Json.int n).Oversized ↔ Decimal.ofInt? n = none := by
  rw [Decimal.ofInt?_eq_none]
  constructor
  · rintro ⟨m, same, large⟩
    cases same
    exact large
  · intro large
    exact ⟨n, rfl, large⟩

theorem Json.not_oversized {j : Json} (other : ∀ n, j ≠ .int n) : ¬ j.Oversized := by
  rintro ⟨n, same, _⟩
  exact other n same

/-- A value has a number to stand for it unless it is a whole number out of range. -/
theorem Json.returns_toFloat {fallback : Float} {j : Json} :
    Returns (j.toFloat fallback) ↔ ¬ j.Oversized := by
  cases j with
  | int n =>
    rw [oversized_int]
    unfold toFloat
    cases found : Decimal.ofInt? n with
    | none => simp [found, not_returns_error]
    | some x => simp [found, returns_ok]
  | str s =>
    refine iff_of_true ?_ (not_oversized fun n same => nomatch same)
    unfold toFloat
    cases found : Decimal.Numeral.double? s with
    | none => simp [found, returns_ok]
    | some x => simp [found, returns_ok]
  | _ => exact iff_of_true (returns_ok _) (not_oversized fun n same => nomatch same)

/-! ## Heights -/

namespace Cascade

def HeightFails (record : Record Json) : Prop :=
  ∃ z, record.get? "z" = some z ∧ z.Oversized

theorem returns_zValue {record : Record Json} : Returns (zValue record) ↔ ¬ HeightFails record := by
  refine Json.returns_toFloat.trans (not_congr ?_)
  unfold HeightFails
  cases record.get? "z" with
  | none => exact iff_of_false (Json.not_oversized fun n same => nomatch same) (by simp)
  | some z => simp

theorem zValue_of_not_given {record : Record Json} (absent : Json.given? record "z" = none) :
    zValue record = .ok 0.0 := by
  unfold Json.given? at absent
  unfold zValue
  split at absent
  · rename_i null
    rw [null]
    rfl
  · rw [absent]
    rfl

theorem sortByZ_perm {shapes ordered : Shapes} (sorted : sortByZ shapes = .ok ordered) :
    ordered.Perm shapes := by
  obtain ⟨placed, walk, same⟩ := bind_eq_ok.mp sorted
  have unplaced : shapes = placed.map (·.2) := by
    rw [← List.forall₂_eq_eq_eq, List.forall₂_map_right_iff]
    refine (mapM_eq_ok_iff.mp walk).imp fun entry found step => ?_
    obtain ⟨height, -, done⟩ := bind_eq_ok.mp step
    cases done
    rfl
  cases same
  rw [unplaced]
  exact (List.mergeSort_perm placed _).map _

theorem sortByZ_level {shapes : Shapes} {z : Float}
    (level : ∀ entry ∈ shapes, zValue entry.2 = .ok z) : sortByZ shapes = .ok shapes := by
  have walk : (shapes.mapM fun entry => do return (Decimal.rank (← zValue entry.2), entry)) =
      .ok (shapes.map fun entry => (Decimal.rank z, entry)) := by
    rw [mapM_eq_ok_iff, List.forall₂_map_right_iff, List.forall₂_same]
    intro entry member
    rw [level entry member]
    rfl
  have even : (shapes.map fun entry => (Decimal.rank z, entry)).Pairwise
      fun a b => (decide (a.1 ≤ b.1)) = true := by
    rw [List.pairwise_map]
    exact List.pairwise_of_forall fun _ _ => decide_eq_true (Int.le_refl _)
  refine bind_eq_ok.mpr ⟨_, walk, ?_⟩
  rw [List.mergeSort_of_pairwise even, List.map_map]
  exact congrArg Except.ok (List.map_id _)

theorem returns_sortByZ {shapes : Shapes} :
    Returns (sortByZ shapes) ↔ ∀ entry ∈ shapes, ¬ HeightFails entry.2 := by
  refine (returns_last fun placed => returns_ok _).trans (returns_mapM.trans ?_)
  refine forall₂_congr fun entry member => ?_
  exact (returns_last fun height => returns_ok _).trans returns_zValue

theorem returns_backgroundZ {shapes : Shapes} (fine : ∀ entry ∈ shapes, ¬ HeightFails entry.2) :
    Returns (backgroundZ shapes) := by
  refine (returns_last fun floors => returns_ok _).mpr (returns_mapM.mpr ?_)
  intro entry member
  refine (returns_last fun height => returns_ok _).mpr (returns_zValue.mpr ?_)
  exact fine entry (List.mem_of_mem_filter member)

end Cascade

end DeckPress
