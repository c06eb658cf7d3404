import Mathlib
import DeckPress.Decimal.Binary64

/-!
Doubles as rational numbers. Finite doubles are whole multiples of the least positive one; the
multiple grows with the place of a double in the order of numbers, so places decide how finite
doubles compare.
-/

namespace DeckPress.Decimal

/-- The number that a finite double is. The other doubles are none, and nought stands for them. -/
def Binary64.number : Binary64 → ℚ
  | .finite negative mantissa exponent => signed negative mantissa * 2 ^ exponent
  | _ => 0

def number (x : Float) : ℚ :=
  (Binary64.ofFloat x).number

/-- The floor that is computed from the bits is the floor of the number. -/
theorem Binary64.floor_eq (b : Binary64) : b.floor = ⌊b.number⌋ := by
  cases b with
  | finite negative mantissa exponent =>
    rw [floor, number]
    by_cases up : 0 ≤ exponent
    · obtain ⟨e, rfl⟩ := Int.eq_ofNat_of_zero_le up
      have whole : (signed negative mantissa : ℚ) * 2 ^ (e : Int) =
          ((signed negative (mantissa * twoTo e) : Int) : ℚ) := by
        cases negative <;> simp [signed, twoTo]
      rw [if_pos up, whole, Int.floor_intCast, Int.toNat_natCast]
    · obtain ⟨e, rfl⟩ : ∃ e : Nat, exponent = -e := ⟨exponent.natAbs, by omega⟩
      have quotient : (signed negative mantissa : ℚ) * 2 ^ (-(e : Int)) =
          (signed negative mantissa : ℚ) / ((2 ^ e : Nat) : ℚ) := by
        rw [zpow_neg, zpow_natCast, div_eq_mul_inv, Nat.cast_pow, Nat.cast_ofNat]
      rw [if_neg up, quotient, Rat.floor_intCast_div_natCast, neg_neg, Int.toNat_natCast,
        Int.fdiv_eq_ediv_of_nonneg _ (Int.natCast_nonneg _)]
      rfl
  | _ => simp [floor, number]

theorem number_of_bits {x : Float} {m : Nat} {e : Int}
    (bits : Binary64.ofFloat x = .finite false m e) : number x = m * 2 ^ e := by
  rw [number, bits]
  simp [Binary64.number, Binary64.signed]

theorem number_nought : number 0.0 = 0 := by
  rw [number_of_bits (m := 0) (e := -1074) rfl, Nat.cast_zero, zero_mul]

def leastUnit : ℚ := 2 ^ (-1074 : Int)

theorem leastUnit_pos : 0 < leastUnit :=
  zpow_pos two_pos _

/-! ## Places -/

/-- How often the least positive double goes into the double at a place. -/
def units (place : Nat) : Nat :=
  if place < 2 ^ 52 then place else (place % 2 ^ 52 + 2 ^ 52) * 2 ^ (place / 2 ^ 52 - 1)

/-- Two neighbours lie apart by a power of two, the same all over a binade. -/
theorem units_succ (place : Nat) :
    units (place + 1) = units place + 2 ^ (place / 2 ^ 52 - 1) := by
  have parts := Nat.div_add_mod place (2 ^ 52)
  have below : place % 2 ^ 52 < 2 ^ 52 := Nat.mod_lt _ (by decide)
  by_cases small : place + 1 < 2 ^ 52
  · rw [units, units, if_pos small, if_pos (by omega), Nat.div_eq_of_lt (by omega)]
    rfl
  · rcases Nat.lt_or_ge (place % 2 ^ 52 + 1) (2 ^ 52) with inside | border
    · have binade : (place + 1) / 2 ^ 52 = place / 2 ^ 52 := by omega
      have fraction : (place + 1) % 2 ^ 52 = place % 2 ^ 52 + 1 := by omega
      rw [units, units, if_neg small, if_neg (by omega), binade, fraction]
      ring
    · have binade : (place + 1) / 2 ^ 52 = place / 2 ^ 52 + 1 := by omega
      have fraction : (place + 1) % 2 ^ 52 = 0 := by omega
      rw [units, if_neg small, binade, fraction, units]
      -- At the first border the subnormal doubles end, and the step stays what it was.
      split
      · rename_i subnormal
        rw [Nat.div_eq_of_lt subnormal]
        omega
      · obtain ⟨e, exponent⟩ : ∃ e, place / 2 ^ 52 = e + 1 := ⟨place / 2 ^ 52 - 1, by omega⟩
        have full : place % 2 ^ 52 = 2 ^ 52 - 1 := by omega
        rw [exponent, full, Nat.add_sub_cancel, Nat.add_sub_cancel, pow_succ]
        omega

theorem units_strictMono : StrictMono units :=
  strictMono_nat_of_lt_succ fun place => by
    rw [units_succ]
    exact Nat.lt_add_of_pos_right (Nat.two_pow_pos _)

/-- The units in one binade, the first of the next one included. -/
theorem units_normal {e f : Nat} (low : 2 ^ 52 ≤ f) (high : f ≤ 2 ^ 53) :
    units (e * 2 ^ 52 + f) = f * 2 ^ e := by
  rw [units, if_neg (by omega)]
  rcases high.lt_or_eq with inside | rfl
  · have binade : (e * 2 ^ 52 + f) / 2 ^ 52 = e + 1 := by omega
    have fraction : (e * 2 ^ 52 + f) % 2 ^ 52 = f - 2 ^ 52 := by omega
    rw [binade, fraction, Nat.sub_add_cancel low, Nat.add_sub_cancel]
  · have binade : (e * 2 ^ 52 + 2 ^ 53) / 2 ^ 52 = e + 1 + 1 := by omega
    have fraction : (e * 2 ^ 52 + 2 ^ 53) % 2 ^ 52 = 0 := by omega
    rw [binade, fraction, Nat.add_sub_cancel, pow_succ]
    omega

def level (rank : Int) : Int :=
  rank.sign * units rank.natAbs

@[simp] theorem level_natCast (place : Nat) : level place = units place := by
  cases place with
  | zero => rfl
  | succ n => rw [level, Int.natAbs_natCast, Int.sign_natCast_of_ne_zero n.succ_ne_zero, one_mul]

@[simp] theorem level_neg (rank : Int) : level (-rank) = -level rank := by
  rw [level, level, Int.sign_neg, Int.natAbs_neg, neg_mul]

theorem level_strictMono : StrictMono level := by
  have nonnegative (n : Nat) : 0 ≤ level n := by
    rw [level_natCast]
    exact Int.natCast_nonneg _
  intro r s before
  rcases Int.eq_nat_or_neg r with ⟨m, rfl | rfl⟩ <;> rcases Int.eq_nat_or_neg s with ⟨n, rfl | rfl⟩
  · rw [level_natCast, level_natCast]
    exact_mod_cast units_strictMono (by omega : m < n)
  · omega
  · have positive : 0 < m ∨ 0 < n := by omega
    have zero : units 0 = 0 := rfl
    rw [level_neg, level_natCast, level_natCast]
    rcases positive with h | h <;> have := units_strictMono h <;> omega
  · rw [level_neg, level_neg, level_natCast, level_natCast]
    have := units_strictMono (by omega : n < m)
    omega

/-! ## Finite doubles -/

def finiteAt (negative : Bool) (place : Nat) : Binary64 :=
  if place / 2 ^ 52 = 0 then .finite negative (place % 2 ^ 52) (-1074)
  else .finite negative (place % 2 ^ 52 + 2 ^ 52) ((place / 2 ^ 52 : Nat) - 1075)

theorem number_finiteAt (negative : Bool) (place : Nat) :
    (finiteAt negative place).number =
      level (if negative then -(place : Int) else place) * leastUnit := by
  have sign (n : Nat) : (Binary64.signed negative n : ℚ) = (if negative then -1 else 1) * n := by
    cases negative <;> simp [Binary64.signed]
  have height : (level (if negative then -(place : Int) else place) : ℚ) =
      (if negative then -1 else 1) * units place := by
    cases negative <;> simp
  rw [height, finiteAt]
  by_cases subnormal : place / 2 ^ 52 = 0
  · have below : place < 2 ^ 52 := by omega
    rw [if_pos subnormal, Binary64.number, sign, Nat.mod_eq_of_lt below, units, if_pos below,
      leastUnit]
  · obtain ⟨e, exponent⟩ : ∃ e, place / 2 ^ 52 = e + 1 := ⟨place / 2 ^ 52 - 1, by omega⟩
    have normal : ¬ place < 2 ^ 52 := by omega
    have power : (2 : ℚ) ^ (((e + 1 : Nat) : Int) - 1075) = 2 ^ e * leastUnit := by
      rw [leastUnit, ← zpow_natCast, ← zpow_add₀ two_ne_zero]
      congr 1
      omega
    rw [if_neg subnormal, Binary64.number, sign, exponent, power, units, if_neg normal, exponent,
      Nat.add_sub_cancel]
    push_cast
    ring

theorem exponent_of_finite {x : Float} (finite : isFinite x) :
    ¬ x.toBits.toNat / 2 ^ 52 % 2 ^ 11 = 2047 := by
  unfold isFinite Binary64.ofFloat at finite
  dsimp only at finite
  split at finite
  · split at finite <;> cases finite
  · assumption

theorem ofFloat_finite {x : Float} (finite : isFinite x) : ∃ negative place,
    Binary64.ofFloat x = finiteAt negative place ∧
      rank x = if negative then -(place : Int) else place := by
  have bound : x.toBits.toNat < 2 ^ 64 := x.toBits.toNat_lt
  refine ⟨decide (2 ^ 63 ≤ x.toBits.toNat), x.toBits.toNat % 2 ^ 63, ?_, ?_⟩
  · have exponent : x.toBits.toNat / 2 ^ 52 % 2 ^ 11 = x.toBits.toNat % 2 ^ 63 / 2 ^ 52 := by omega
    have fraction : x.toBits.toNat % 2 ^ 52 = x.toBits.toNat % 2 ^ 63 % 2 ^ 52 := by omega
    rw [finiteAt, ← exponent, ← fraction]
    exact if_neg (exponent_of_finite finite)
  · unfold rank
    simp only [twoTo, Nat.pow_eq, decide_eq_true_eq]
    split <;> omega

theorem number_eq {x : Float} (finite : isFinite x) : number x = level (rank x) * leastUnit := by
  obtain ⟨negative, place, bits, height⟩ := ofFloat_finite finite
  rw [number, bits, number_finiteAt, height]

theorem rank_le_iff {x y : Float} (finite : isFinite x) (finite' : isFinite y) :
    rank x ≤ rank y ↔ number x ≤ number y := by
  rw [number_eq finite, number_eq finite', mul_le_mul_iff_left₀ leastUnit_pos, Int.cast_le,
    level_strictMono.le_iff_le]

theorem finite_of_bits {x : Float} {place : Nat} (range : place < 2047 * 2 ^ 52) (negative : Bool)
    (bits : x.toBits.toNat = (if negative then 2 ^ 63 else 0) + place) :
    isFinite x ∧ rank x = if negative then -(place : Int) else place := by
  have exponent : ¬ x.toBits.toNat / twoTo 52 % twoTo 11 = 2047 := by
    rw [bits]
    simp only [twoTo, Nat.pow_eq]
    split <;> omega
  constructor
  · unfold isFinite Binary64.ofFloat
    dsimp only
    rw [if_neg exponent]
    split <;> rfl
  · unfold rank
    simp only [bits, twoTo, Nat.pow_eq]
    cases negative
    · simp only [Bool.false_eq_true, if_false]
      rw [if_neg (by omega)]
      omega
    · simp only [if_true]
      rw [if_pos (by omega)]
      omega

/-! ## The double nearest to a number -/

/-- No finite double lies nearer to a number, and of two that lie equally near this is the one
that ends in an even bit. -/
structure Nearest (x : Float) (q : ℚ) : Prop where
  finite : isFinite x
  closest : ∀ y, isFinite y → |number x - q| ≤ |number y - q|
  even : ∀ y, isFinite y → |number y - q| = |number x - q| → number y = number x ∨ 2 ∣ rank x

theorem nearest_number {x : Float} (finite : isFinite x) : Nearest x (number x) where
  finite := finite
  closest y _ := by
    rw [sub_self, abs_zero]
    exact abs_nonneg _
  even y _ same := by
    rw [sub_self, abs_zero, abs_eq_zero, sub_eq_zero] at same
    exact .inl same

section Nearest

variable {x y : Float} {p q : ℚ}

theorem Nearest.of_rank (near : Nearest x q) (finite : isFinite y) (same : rank y = rank x) :
    Nearest y q := by
  have equal : number y = number x := by rw [number_eq finite, number_eq near.finite, same]
  constructor
  · exact finite
  · rw [equal]
    exact near.closest
  · rw [equal, same]
    exact near.even

/-- Rounding keeps the order of numbers, unless it takes them to one double. -/
theorem Nearest.le_or_same (first : Nearest x p) (second : Nearest y q)
    (before : rank x ≤ rank y) : p ≤ q ∨ ∃ z, Nearest z p ∧ Nearest z q := by
  rcases before.lt_or_eq with apart | same
  · left
    have order : number x < number y := by
      rw [← not_le, ← rank_le_iff second.finite first.finite]
      omega
    have left := first.closest y second.finite
    have right := second.closest x first.finite
    -- Each of the doubles is nearest to its own number, so the numbers cannot lie the other way.
    by_contra! wrong
    rcases abs_cases (number x - p) <;> rcases abs_cases (number y - p) <;>
      rcases abs_cases (number x - q) <;> rcases abs_cases (number y - q) <;> linarith
  · exact .inr ⟨y, first.of_rank second.finite same.symm, second⟩

theorem Nearest.number_eq (near : Nearest x q) (finite : isFinite y) (own : number y = q) :
    number x = q := by
  have closest := near.closest y finite
  rw [own, sub_self, abs_zero] at closest
  exact sub_eq_zero.mp (abs_nonpos_iff.mp closest)

theorem le_of_doubles (finite : isFinite x) (own : number x = p) (finite' : isFinite y)
    (other : number y = q) (either : p ≤ q ∨ ∃ z, Nearest z p ∧ Nearest z q) : p ≤ q := by
  rcases either with below | ⟨z, near, near'⟩
  · exact below
  · rw [← near.number_eq finite own, near'.number_eq finite' other]

end Nearest

end DeckPress.Decimal
