import DeckPress.Proofs.Decimal.Rounding

/-!
Doubles compared by the rules of arithmetic. The comparison takes doubles apart: signs first, then
exponents, then mantissas. For finite doubles that comes to comparing their places, so none of them
is incomparable and the two zeros are equal.
-/

namespace DeckPress.Decimal

open Float.Model
open Float.Model.UnpackedFloat

/-! ## Taking apart -/

def signedPlace : Sign → Nat → Int
  | .positive, place => place
  | .negative, place => -place

theorem bits_of_finite {x : Float} (finite : isFinite x) : ∃ s place, place < 2047 * 2 ^ 52 ∧
    x.toBits.toNat = signBits s + place ∧ rank x = signedPlace s place := by
  have bound : x.toBits.toNat < 2 ^ 64 := x.toBits.toNat_lt
  have ordinary := exponent_of_finite finite
  unfold rank
  simp only [twoTo, Nat.pow_eq]
  by_cases negative : 2 ^ 63 ≤ x.toBits.toNat
  · refine ⟨.negative, x.toBits.toNat - 2 ^ 63, by omega, ?_, if_pos negative⟩
    rw [signBits]
    omega
  · refine ⟨.positive, x.toBits.toNat, by omega, ?_, if_neg negative⟩
    rw [signBits, Nat.zero_add]

theorem unpack_subnormal {f : Float.Model} {s : Sign} {m : Nat} (small : m < 2 ^ 52)
    (bits : f.toBits.toNat = signBits s + m) :
    f.unpack = if h : m = 0 then .zero s else .finite s m (-1074) (Nat.pos_of_ne_zero h) := by
  have parts : f.toBits.toBitVec = packComponents .binary64 s (0#11) (BitVec.ofNat 52 m) := by
    rw [← BitVec.toNat_inj, toNat_packComponents, BitVec.toNat_ofNat, BitVec.toNat_ofNat]
    exact bits.trans (by omega)
  have fraction : (BitVec.ofNat 52 m).toNat = m := by
    rw [BitVec.toNat_ofNat]
    exact Nat.mod_eq_of_lt small
  have empty : BitVec.ofNat 52 m = 0#52 ↔ m = 0 := by
    rw [← BitVec.toNat_inj, fraction]
    rfl
  rw [Float.Model.unpack, UnpackedFloat.unpack, parts]
  simp only [unpackExponent_packComponents, unpackMantissa_packComponents,
    unpackSign_packComponents, Sign.ofBitVec_toBitVec]
  rw [if_neg (by decide), if_pos trivial]
  by_cases nought : m = 0
  · rw [dif_pos nought, dif_pos (empty.mpr nought)]
  · rw [dif_neg nought, dif_neg (mt empty.mp nought)]
    simp only [fraction]
    rfl

/-- The parts of a finite double, and its place. The smallest exponent is the only one that goes
with a mantissa of too few bits. -/
inductive PartsAt : UnpackedFloat → Int → Prop
  | zero (s : Sign) : PartsAt (.zero s) 0
  | finite (s : Sign) {m : Nat} (exponent : Nat) (h : 0 < m) (high : m < 2 ^ 53)
      (low : exponent = 0 ∨ 2 ^ 52 ≤ m) :
      PartsAt (.finite s m (exponent - 1074) h) (signedPlace s (exponent * 2 ^ 52 + m))

theorem partsAt_of_finite {x : Float} (finite : isFinite x) :
    PartsAt x.toModel.unpack (rank x) := by
  obtain ⟨s, place, range, bits, rank⟩ := bits_of_finite finite
  rw [rank]
  by_cases small : place < 2 ^ 52
  · rw [unpack_subnormal small bits]
    by_cases nought : place = 0
    · subst nought
      cases s <;> exact .zero _
    · have parts := PartsAt.finite s 0 (Nat.pos_of_ne_zero nought) (by omega) (.inl rfl)
      rw [Nat.zero_mul, Nat.zero_add] at parts
      rw [dif_neg nought]
      exact parts
  · have split : place = (place / 2 ^ 52 - 1) * 2 ^ 52 + (place % 2 ^ 52 + 2 ^ 52) := by omega
    have low : 2 ^ 52 ≤ place % 2 ^ 52 + 2 ^ 52 := by omega
    have high : place % 2 ^ 52 + 2 ^ 52 < 2 ^ 53 := by omega
    have positive : 0 < place % 2 ^ 52 + 2 ^ 52 := by omega
    have parts := PartsAt.finite s (place / 2 ^ 52 - 1) positive high (.inr low)
    rw [← split] at parts
    rw [unpack_normal low high (by omega) (bits.trans (congrArg _ split))]
    exact parts

/-! ## Comparing -/

theorem compare_natCast (p q : Nat) : compare (p : Int) q = compare p q := by
  rw [← cmp_eq_compare, ← cmp_eq_compare]
  exact Nat.strictMono_cast.cmp_map_eq p q

theorem compare_neg (p q : Int) : compare (-p) (-q) = (compare p q).swap := by
  have falling : StrictAnti (Neg.neg : Int → Int) := fun _ _ before => neg_lt_neg before
  rw [← cmp_eq_compare, ← cmp_eq_compare, cmp_swap]
  exact falling.cmp_map_eq p q

theorem compare_parts {e f m n : Nat} (high : m < 2 ^ 53) (high' : n < 2 ^ 53)
    (low : e = 0 ∨ 2 ^ 52 ≤ m) (low' : f = 0 ∨ 2 ^ 52 ≤ n) :
    (compare ((e : Int) - 1074) (f - 1074)).then (compare m n) =
      compare (e * 2 ^ 52 + m) (f * 2 ^ 52 + n) := by
  rcases lt_trichotomy e f with before | rfl | after
  · have first : compare ((e : Int) - 1074) (f - 1074) = .lt := compare_lt_iff_lt.mpr (by omega)
    rw [first, Ordering.lt_then, compare_lt_iff_lt.mpr (by omega)]
  · rw [compare_eq_iff_eq.mpr rfl, Ordering.eq_then, ← cmp_eq_compare, ← cmp_eq_compare,
      cmp_add_left]
  · have first : compare ((e : Int) - 1074) (f - 1074) = .gt := compare_gt_iff_gt.mpr (by omega)
    rw [first, Ordering.gt_then, compare_gt_iff_gt.mpr (by omega)]

theorem compare_partsAt {u v : UnpackedFloat} {r q : Int} (left : PartsAt u r)
    (right : PartsAt v q) : u.compare v = some (compare r q) := by
  cases left with
  | zero s =>
    cases right with
    | zero t => rfl
    | finite t _ positive =>
      cases t with
      | positive => exact congrArg some (compare_lt_iff_lt.mpr (by rw [signedPlace]; omega)).symm
      | negative => exact congrArg some (compare_gt_iff_gt.mpr (by rw [signedPlace]; omega)).symm
  | finite s _ positive high low =>
    cases right with
    | zero t =>
      cases s with
      | positive => exact congrArg some (compare_gt_iff_gt.mpr (by rw [signedPlace]; omega)).symm
      | negative => exact congrArg some (compare_lt_iff_lt.mpr (by rw [signedPlace]; omega)).symm
    | finite t _ positive' high' low' =>
      have places := compare_parts high high' low low'
      cases s with
      | positive =>
        cases t with
        | positive =>
          rw [signedPlace, signedPlace, compare_natCast, ← places]
          rfl
        | negative =>
          exact congrArg some (compare_gt_iff_gt.mpr (by rw [signedPlace, signedPlace]; omega)).symm
      | negative =>
        cases t with
        | positive =>
          exact congrArg some (compare_lt_iff_lt.mpr (by rw [signedPlace, signedPlace]; omega)).symm
        | negative =>
          rw [signedPlace, signedPlace, compare_neg, compare_natCast, ← places]
          rfl

theorem le_iff_rank_le {x y : Float} (finite : isFinite x) (finite' : isFinite y) :
    x ≤ y ↔ rank x ≤ rank y := by
  have compared := compare_partsAt (partsAt_of_finite finite) (partsAt_of_finite finite')
  have meaning : x ≤ y ↔ (x.toModel.unpack.compare y.toModel.unpack).any (·.isLE) = true :=
    decide_eq_true_iff
  rw [meaning, compared, Option.any_some, Ordering.isLE_iff_ne_gt, compare_gt_iff_gt, not_lt]

end DeckPress.Decimal
