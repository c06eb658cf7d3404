import DeckPress.Proofs.Decimal.Order

/-!
Whole numbers as doubles. What the arithmetic of doubles does with a mantissa is followed bit by
bit: shifting keeps enough to round by, rounding takes the nearest mantissa, and packing puts it in
its place. The double that stands for a whole number is the nearest one.
-/

namespace DeckPress.Decimal

open Float.Model Float.Model.UnpackedFloat

/-! ## Rounding to whole numbers -/

/-- A whole number is the nearest to a number, the even one of two that are equally near. -/
structure Rounds (r : Nat) (q : ℚ) : Prop where
  near : |r - q| ≤ 1 / 2
  even : |r - q| = 1 / 2 → 2 ∣ r

theorem Rounds.le_of_le {r n : Nat} {q : ℚ} (rounds : Rounds r q) (low : n ≤ q) : n ≤ r := by
  have near := (abs_le.mp rounds.near).1
  have half : (n : ℚ) < r + 1 := by linarith
  exact Nat.lt_succ_iff.mp (by exact_mod_cast half)

theorem Rounds.ge_of_ge {r n : Nat} {q : ℚ} (rounds : Rounds r q) (high : q ≤ n) : r ≤ n := by
  have near := (abs_le.mp rounds.near).2
  have half : (r : ℚ) < n + 1 := by linarith
  exact Nat.lt_succ_iff.mp (by exact_mod_cast half)

theorem Rounds.of_lt {r : Nat} {q : ℚ} (near : |r - q| < 1 / 2) : Rounds r q :=
  ⟨near.le, fun tie => absurd tie near.ne⟩

theorem Rounds.eq {r n : Nat} (rounds : Rounds r n) : r = n :=
  le_antisymm (rounds.ge_of_ge le_rfl) (rounds.le_of_le le_rfl)

theorem Rounds.closest {r : Nat} {q : ℚ} (rounds : Rounds r q) (f : Nat) :
    |r - q| ≤ |f - q| ∧ (|(f : ℚ) - q| = |r - q| → f = r ∨ 2 ∣ r) := by
  by_cases same : f = r
  · subst same
    exact ⟨le_rfl, fun _ => .inl rfl⟩
  · have apart : (1 : ℚ) ≤ |(f : ℚ) - r| := by
      have whole : 1 ≤ |(f : Int) - r| := Int.one_le_abs (by omega)
      exact_mod_cast whole
    have near := rounds.near
    have around : |(f : ℚ) - r| ≤ |f - q| + |r - q| := by
      rw [abs_sub_comm (r : ℚ) q]
      exact abs_sub_le (f : ℚ) q r
    exact ⟨by linarith, fun tie => .inr (rounds.even (by linarith))⟩

/-- What a mantissa with its round bit and its sticky bit says of the number before shifting. -/
def Stands (em : ExtendedMantissa) (q : ℚ) : Prop :=
  match em.roundBit, em.stickyBit with
  | false, false => q = em.mantissa
  | false, true => em.mantissa < q ∧ q < em.mantissa + 1 / 2
  | true, false => q = em.mantissa + 1 / 2
  | true, true => em.mantissa + 1 / 2 < q ∧ q < em.mantissa + 1

theorem Stands.shiftRightOne {em : ExtendedMantissa} {q : ℚ} (stands : Stands em q) :
    Stands em.shiftRightOne (q / 2) := by
  obtain ⟨m, round, sticky⟩ := em
  have halves : (m : ℚ) = 2 * (m / 2 : Nat) + (m % 2 : Nat) := by
    exact_mod_cast (Nat.div_add_mod m 2).symm
  rcases Nat.mod_two_eq_zero_or_one m with bit | bit <;> rw [bit] at halves <;>
    cases round <;> cases sticky <;>
    simp only [Stands, ExtendedMantissa.shiftRightOne, bit, halves] at stands ⊢ <;>
    push_cast at stands ⊢ <;> grind

theorem Stands.shiftRight {em : ExtendedMantissa} {q : ℚ} (stands : Stands em q) (n : Nat) :
    Stands (em >>> n) (q / 2 ^ n) := by
  change Stands (n.repeat ExtendedMantissa.shiftRightOne em) _
  induction n with
  | zero => simpa [Nat.repeat] using stands
  | succ n ih =>
    rw [Nat.repeat, pow_succ, ← div_div]
    exact ih.shiftRightOne

theorem Stands.rounds {em : ExtendedMantissa} {q : ℚ} (stands : Stands em q) :
    Rounds em.roundedMantissa q := by
  obtain ⟨m, round, sticky⟩ := em
  cases round <;> cases sticky <;>
    simp only [Stands, ExtendedMantissa.roundedMantissa, ExtendedMantissa.accuracy,
      Accuracy.roundToNearestEven] at stands ⊢
  · subst stands
    exact .of_lt (by simp)
  · exact .of_lt (abs_lt.mpr ⟨by linarith, by linarith⟩)
  · subst stands
    rcases Nat.mod_two_eq_zero_or_one m with bit | bit <;> rw [bit]
    · exact ⟨abs_le.mpr ⟨by push_cast; linarith, by push_cast; linarith⟩, fun _ => by omega⟩
    · exact ⟨abs_le.mpr ⟨by push_cast; linarith, by push_cast; linarith⟩, fun _ => by omega⟩
  · exact .of_lt (abs_lt.mpr ⟨by push_cast; linarith, by push_cast; linarith⟩)

/-! ## Packing -/

def signBits : Sign → Nat
  | .positive => 0
  | .negative => 2 ^ 63

theorem log2_normal {m : Nat} (low : 2 ^ 52 ≤ m) (high : m < 2 ^ 53) : m.log2 = 52 :=
  (Nat.log2_eq_iff (by omega)).mpr ⟨low, high⟩

theorem log2_shiftLeft {n : Nat} (positive : n ≠ 0) (k : Nat) : (n <<< k).log2 = n.log2 + k := by
  obtain ⟨low, high⟩ := (Nat.log2_eq_iff positive).mp rfl
  rw [Nat.shiftLeft_eq, Nat.log2_eq_iff (by positivity), pow_add,
    show n.log2 + k + 1 = n.log2 + 1 + k by omega, pow_add]
  exact ⟨Nat.mul_le_mul_right _ low, Nat.mul_lt_mul_of_pos_right high (Nat.two_pow_pos k)⟩

theorem log2_lt_add {n a b : Nat} (positive : n ≠ 0) (bound : n < 2 ^ a * 2 ^ b) :
    n.log2 < a + b := by
  rwa [Nat.log2_lt positive, pow_add]

theorem toNat_packComponents (s : Sign) (e : BitVec 11) (f : BitVec 52) :
    (packComponents .binary64 s e f).toNat = signBits s + e.toNat * 2 ^ 52 + f.toNat := by
  rw [packComponents, BitVec.toNat_append, BitVec.toNat_append,
    ← Nat.shiftLeft_add_eq_or_of_lt e.isLt, ← Nat.shiftLeft_add_eq_or_of_lt f.isLt,
    Nat.shiftLeft_eq, Nat.shiftLeft_eq]
  cases s <;> (simp [signBits, Sign.toBitVec]; try omega)

theorem toBits_pack {s : Sign} {m : Nat} {e : Int} {h : 0 < m} {exponent : Nat} (low : 2 ^ 52 ≤ m)
    (high : m < 2 ^ 53) (biased : e + 1074 = exponent) (range : exponent < 2046) :
    (Float.Model.pack (.finite s m e h)).toBits.toNat =
      signBits s + (exponent * 2 ^ 52 + m) := by
  have field : (e + Format.binary64.exponentBias +
      Format.binary64.mantissaBitsWithoutImplicit).toNat = exponent + 1 := by
    change (e + (1023 : Nat) + (52 : Nat)).toNat = exponent + 1
    omega
  have full : m.log2 + 1 = Format.binary64.mantissaBits := by
    rw [log2_normal low high]
    rfl
  change (UnpackedFloat.pack .binary64 (.finite s m e h)).toNat = _
  rw [UnpackedFloat.pack]
  dsimp only
  rw [field, if_neg (by simp; omega), if_pos full, toNat_packComponents]
  simp only [BitVec.toNat_ofNat]
  omega

theorem unpack_normal {f : Float.Model} {s : Sign} {m exponent : Nat} {h : 0 < m}
    (low : 2 ^ 52 ≤ m) (high : m < 2 ^ 53) (range : exponent < 2046)
    (bits : f.toBits.toNat = signBits s + (exponent * 2 ^ 52 + m)) :
    f.unpack = .finite s m (exponent - 1074) h := by
  have parts : f.toBits.toBitVec =
      packComponents .binary64 s (BitVec.ofNat 11 (exponent + 1)) (BitVec.ofNat 52 m) := by
    rw [← BitVec.toNat_inj, toNat_packComponents, BitVec.toNat_ofNat, BitVec.toNat_ofNat]
    exact bits.trans (by omega)
  have field : (BitVec.ofNat 11 (exponent + 1)).toNat = exponent + 1 := by
    rw [BitVec.toNat_ofNat]
    omega
  have whole : (1#1 ++ BitVec.ofNat 52 m).toNat = m := by
    rw [BitVec.toNat_append, ← Nat.shiftLeft_add_eq_or_of_lt (BitVec.isLt _), BitVec.toNat_ofNat]
    change 2 ^ 52 + m % 2 ^ 52 = m
    omega
  have scale : ((exponent + 1 : Nat) : Int) -
      (Format.binary64.exponentBias + Format.binary64.mantissaBitsWithoutImplicit) =
        exponent - 1074 := by
    change ((exponent + 1 : Nat) : Int) - (((1023 : Nat) : Int) + ((52 : Nat) : Int)) = _
    omega
  rw [Float.Model.unpack, UnpackedFloat.unpack, parts]
  simp only [unpackExponent_packComponents, unpackMantissa_packComponents,
    unpackSign_packComponents, Sign.ofBitVec_toBitVec]
  rw [if_neg (by simp [← BitVec.toNat_inj, field]; omega),
    if_neg (by simp [← BitVec.toNat_inj, field])]
  simp only [whole, field, scale]

/-! ## Rounding to a double -/

section Round

variable {m k : Nat} {e : Int}

theorem targetExponent_eq {target : Int} (size : m.log2 + 1 + e = target + 53)
    (normal : -1074 ≤ target) :
    Format.binary64.targetExponent (totalExponent m e) = target := by
  change max ((m.log2 : Int) + 1 + e - ((53 : Nat) : Int)) (3 - 2 ^ 10 - ((53 : Nat) : Int)) =
    target
  omega

theorem shiftToTargetExponent_eq {accuracy : Accuracy} (size : m.log2 = 52 + k)
    (normal : -1074 ≤ e + k) : shiftToTargetExponent .binary64 m e accuracy =
      (ExtendedMantissa.ofMantissaAndAccuracy m accuracy >>> k, e + k) := by
  have target := targetExponent_eq (m := m) (e := e) (by omega) normal
  have shift : (e + k - e).toNat = k := by omega
  simp only [shiftToTargetExponent, shiftToExponent, target, shift]

theorem kept_bounds (size : m.log2 = 52 + k) :
    ((2 ^ 52 : Nat) : ℚ) ≤ m / 2 ^ k ∧ (m : ℚ) / 2 ^ k < ((2 ^ 53 : Nat) : ℚ) := by
  have positive : m ≠ 0 := by
    rintro rfl
    simp at size
    omega
  obtain ⟨low, high⟩ := (Nat.log2_eq_iff positive).mp size
  rw [le_div_iff₀ (by positivity), div_lt_iff₀ (by positivity)]
  rw [pow_add] at low
  rw [show 52 + k + 1 = 53 + k by omega, pow_add] at high
  exact ⟨by exact_mod_cast low, by exact_mod_cast high⟩

/-- A mantissa of too many bits is rounded where the format ends. The bits of the outcome are
counted from that exponent even when rounding carries into the next one. -/
theorem pack_roundWithAccuracy {s : Sign} (exponent : Nat) (size : m.log2 = 52 + k)
    (biased : e + k + 1074 = exponent) :
    ∃ r, Rounds r (m / 2 ^ k) ∧ 2 ^ 52 ≤ r ∧ r ≤ 2 ^ 53 ∧
      (exponent * 2 ^ 52 + r < 2047 * 2 ^ 52 →
        (Float.Model.pack (roundWithAccuracy .binary64 s m e .exact)).toBits.toNat =
          signBits s + (exponent * 2 ^ 52 + r)) := by
  have stands : Stands (ExtendedMantissa.ofMantissaAndAccuracy m .exact >>> k) (m / 2 ^ k) :=
    Stands.shiftRight (by rfl) k
  obtain ⟨low, high⟩ := kept_bounds size
  have low' := stands.rounds.le_of_le low
  have high' := stands.rounds.ge_of_ge high.le
  refine ⟨_, stands.rounds, low', high', fun range => ?_⟩
  rw [roundWithAccuracy, shiftToTargetExponent_eq size (by omega)]
  dsimp only
  generalize (ExtendedMantissa.ofMantissaAndAccuracy m .exact >>> k).roundedMantissa = r at *
  rcases high'.lt_or_eq with inside | carry
  · have full : r.log2 = 52 + 0 := log2_normal low' inside
    have still : shiftToTargetExponent .binary64 r (e + k) .exact = (⟨r, false, false⟩, e + k) := by
      rw [shiftToTargetExponent_eq full (by omega), Nat.cast_zero, add_zero]
      rfl
    rw [still]
    dsimp only
    rw [dif_neg (by omega)]
    exact toBits_pack low' inside biased (by omega)
  -- The carry is one bit too many. The second shift takes off a nought, so nothing is lost.
  · subst carry
    have wide : (2 ^ 53).log2 = 52 + 1 := Nat.log2_two_pow
    have next : e + k + (1 : Nat) + 1074 = ((exponent + 1 : Nat) : Int) := by omega
    have packed := toBits_pack (s := s) (h := by decide) le_rfl (by decide : 2 ^ 52 < 2 ^ 53) next
      (by omega)
    rw [shiftToTargetExponent_eq wide (by omega)]
    exact packed.trans (by omega)

end Round

/-! ## Whole numbers -/

/-- The bits of the double that stands for a positive whole number. -/
def Placed (n : Nat) (x : Float) : Prop :=
  ∃ r, Rounds r (n * 2 ^ 53 / 2 ^ (n.log2 + 1)) ∧ 2 ^ 52 ≤ r ∧
    ((n.log2 + 1022) * 2 ^ 52 + r < 2047 * 2 ^ 52 →
      x.toBits.toNat = (n.log2 + 1022) * 2 ^ 52 + r)

theorem placed_ofScientific {n : Nat} (positive : n ≠ 0) :
    Placed n (.ofModel (Float.Model.ofScientific n 0)) := by
  have size : (n <<< 53 * 10 ^ 0).log2 = 52 + (n.log2 + 1) := by
    rw [pow_zero, mul_one, log2_shiftLeft positive]
    omega
  obtain ⟨r, rounds, low, -, bits⟩ := pack_roundWithAccuracy (s := .positive) (e := -53 + 0)
    (n.log2 + 1022) size (by omega)
  refine ⟨r, ?_, low, fun range => ?_⟩
  · rw [pow_zero, mul_one, Nat.shiftLeft_eq] at rounds
    exact_mod_cast rounds
  · rw [← Nat.zero_add (_ + r)]
    refine Eq.trans ?_ (bits range)
    rw [Float.toBits, Float.Model.ofScientific, UnpackedFloat.ofScientific, dif_neg positive,
      if_neg (by decide), if_neg (by simp), if_pos le_rfl]
    rfl

theorem toBits_toFloat {n : Nat} (positive : n ≠ 0) (small : n < 2 ^ 53) :
    n.toUInt64.toFloat.toBits.toNat = (n.log2 + 1022) * 2 ^ 52 + n <<< (52 - n.log2) := by
  have room : n.log2 < 53 := (Nat.log2_lt positive).mpr small
  have size : (n <<< (52 - n.log2)).log2 = 52 + 0 := by
    rw [log2_shiftLeft positive]
    omega
  have target : Format.binary64.targetExponent (totalExponent n 0) = n.log2 - 52 :=
    targetExponent_eq (by omega) (by omega)
  have shift : (0 - ((n.log2 : Int) - 52)).toNat = 52 - n.log2 := by omega
  have same : (n.toUInt64.toNat : Int) = n := by
    rw [UInt64.toNat_ofNat_of_lt' (small.trans (by decide))]
  -- The number is first shifted up to fill the format, and then it is rounded without a shift.
  obtain ⟨r, rounds, low, -, bits⟩ := pack_roundWithAccuracy (s := .positive)
    (e := 0 - ((52 - n.log2 : Nat) : Int)) (n.log2 + 1022) size (by omega)
  rw [pow_zero, div_one] at rounds
  cases rounds.eq
  have inside := (Nat.log2_lt (by omega)).mp (size.trans_lt (by decide : 52 + 0 < 53))
  rw [← Nat.zero_add (_ + _)]
  refine Eq.trans ?_ (bits (by omega))
  rw [UInt64.toFloat, Float.toBits, Float.Model.ofUInt64, UnpackedFloat.ofUInt64,
    UnpackedFloat.ofNat, UnpackedFloat.ofInt, UnpackedFloat.normalize, same,
    show compare (n : Int) 0 = .gt from compare_gt_iff_gt.mpr (by omega)]
  dsimp only
  rw [UnpackedFloat.round, Int.toNat_natCast, target, decreaseExponent, shift]

theorem unpack_one : (Float.ofBits 0x3FF0000000000000).toModel.unpack =
    .finite .positive (2 ^ 52) (-52) (by decide) :=
  rfl

/-- Multiplying by one rounds once more, which changes nothing. -/
theorem placed_mul_one {n : Nat} (positive : n ≠ 0) (small : n < 2 ^ 53) :
    Placed n (n.toUInt64.toFloat * Float.ofBits 0x3FF0000000000000) := by
  have room : n.log2 < 53 := (Nat.log2_lt positive).mpr small
  have full : (n <<< (52 - n.log2)).log2 = 52 := by
    rw [log2_shiftLeft positive]
    omega
  have filled : n <<< (52 - n.log2) ≠ 0 := by
    intro empty
    rw [empty] at full
    simp at full
  obtain ⟨low, high⟩ := (Nat.log2_eq_iff filled).mp full
  have unpacked : n.toUInt64.toFloat.toModel.unpack = .finite .positive (n <<< (52 - n.log2))
      ((n.log2 + 1022 : Nat) - 1074) (Nat.pos_of_ne_zero filled) := by
    refine unpack_normal low high (by omega) ?_
    rw [signBits, Nat.zero_add]
    exact toBits_toFloat positive small
  have size : (n <<< (52 - n.log2) * 2 ^ 52).log2 = 52 + 52 := by
    rw [← Nat.shiftLeft_eq, log2_shiftLeft filled, full]
  obtain ⟨r, rounds, low', -, bits⟩ := pack_roundWithAccuracy (s := .positive)
    (e := (n.log2 + 1022 : Nat) - 1074 + -52) (n.log2 + 1022) size (by omega)
  refine ⟨r, ?_, low', fun range => ?_⟩
  · have whole : ((n <<< (52 - n.log2) * 2 ^ 52 : Nat) : ℚ) / 2 ^ 52 =
        n * 2 ^ 53 / 2 ^ (n.log2 + 1) := by
      have split : (2 : ℚ) ^ 53 = 2 ^ (52 - n.log2) * 2 ^ (n.log2 + 1) := by
        rw [← pow_add]
        congr 1
        omega
      rw [Nat.shiftLeft_eq, split, Nat.cast_mul, Nat.cast_mul, Nat.cast_pow, Nat.cast_pow,
        Nat.cast_ofNat, mul_div_cancel_right₀ _ (by positivity), ← mul_assoc,
        mul_div_cancel_right₀ _ (by positivity)]
    rwa [whole] at rounds
  · rw [← Nat.zero_add (_ + r)]
    refine Eq.trans ?_ (bits range)
    change (Float.Model.pack (UnpackedFloat.mul .binary64 n.toUInt64.toFloat.toModel.unpack
      (Float.ofBits 0x3FF0000000000000).toModel.unpack)).toBits.toNat = _
    rw [unpacked, unpack_one]
    rfl

theorem placed_size {n : Nat} (positive : n ≠ 0) : Placed n (Float.ofScientific n false 0) := by
  unfold Float.ofScientific
  split
  · rename_i small
    exact placed_mul_one positive small.1
  · exact placed_ofScientific positive

/-! ## The nearest double -/

theorem level_nearest {e r : Nat} {q : ℚ} (rounds : Rounds r q) (low : ((2 ^ 52 : Nat) : ℚ) ≤ q)
    (high : q ≤ ((2 ^ 53 : Nat) : ℚ)) (s : Int) :
    |(level (e * 2 ^ 52 + r : Nat) : ℚ) - q * 2 ^ e| ≤ |level s - q * 2 ^ e| ∧
      (|(level s : ℚ) - q * 2 ^ e| = |level (e * 2 ^ 52 + r : Nat) - q * 2 ^ e| →
        s = (e * 2 ^ 52 + r : Nat) ∨ 2 ∣ r) := by
  have gap : (0 : ℚ) < 2 ^ e := by positivity
  have binade (f : Nat) (low : 2 ^ 52 ≤ f) (high : f ≤ 2 ^ 53) :
      (level (e * 2 ^ 52 + f : Nat) : ℚ) = f * 2 ^ e := by
    rw [level_natCast, units_normal low high]
    push_cast
    rfl
  have scale (v : ℚ) : |v * 2 ^ e - q * 2 ^ e| = |v - q| * 2 ^ e := by
    rw [← sub_mul, abs_mul, abs_of_pos gap]
  -- A double outside of the binade lies beyond one of its ends, and these are whole numbers.
  have outside {f : Nat} (beyond : |(f : ℚ) - q| * 2 ^ e < |level s - q * 2 ^ e|) :
      |(r : ℚ) - q| * 2 ^ e < |level s - q * 2 ^ e| :=
    (mul_le_mul_of_nonneg_right (rounds.closest f).1 gap.le).trans_lt beyond
  rw [binade r (rounds.le_of_le low) (rounds.ge_of_ge high), scale]
  rcases lt_or_ge s ((e * 2 ^ 52 + 2 ^ 52 : Nat) : Int) with below | above
  · have under : (level s : ℚ) < (2 ^ 52 : Nat) * 2 ^ e := by
      rw [← binade _ le_rfl (by decide)]
      exact_mod_cast level_strictMono below
    have first : ((2 ^ 52 : Nat) : ℚ) * 2 ^ e ≤ q * 2 ^ e := mul_le_mul_of_nonneg_right low gap.le
    have strict := outside (f := 2 ^ 52) (by
      rw [← scale, abs_of_nonpos (by linarith), abs_of_nonpos (by linarith)]
      linarith)
    exact ⟨strict.le, fun tie => absurd tie strict.ne'⟩
  rcases le_or_gt s ((e * 2 ^ 52 + 2 ^ 53 : Nat) : Int) with inside | beyond
  · obtain ⟨f, rfl⟩ : ∃ f : Nat, s = (e * 2 ^ 52 + f : Nat) :=
      ⟨(s - (e * 2 ^ 52 : Nat)).toNat, by omega⟩
    rw [binade f (by omega) (by omega), scale]
    obtain ⟨near, even⟩ := rounds.closest f
    refine ⟨mul_le_mul_of_nonneg_right near gap.le, fun tie => ?_⟩
    rcases even (mul_right_cancel₀ gap.ne' tie) with rfl | even
    · exact .inl rfl
    · exact .inr even
  · have over' : ((2 ^ 53 : Nat) : ℚ) * 2 ^ e < level s := by
      rw [← binade _ (by decide) le_rfl]
      exact_mod_cast level_strictMono beyond
    have last : q * 2 ^ e ≤ ((2 ^ 53 : Nat) : ℚ) * 2 ^ e := mul_le_mul_of_nonneg_right high gap.le
    have strict := outside (f := 2 ^ 53) (by
      rw [← scale, abs_of_nonneg (by linarith), abs_of_nonneg (by linarith)]
      linarith)
    exact ⟨strict.le, fun tie => absurd tie strict.ne'⟩

theorem toBits_neg {x : Float} {place : Nat} (low : 2 ^ 52 ≤ place) (range : place < 2047 * 2 ^ 52)
    (bits : x.toBits.toNat = place) : (-x).toBits.toNat = 2 ^ 63 + place := by
  obtain ⟨exponent, m, low', high, split⟩ :
      ∃ exponent m, 2 ^ 52 ≤ m ∧ m < 2 ^ 53 ∧ exponent * 2 ^ 52 + m = place :=
    ⟨place / 2 ^ 52 - 1, place % 2 ^ 52 + 2 ^ 52, by omega, by omega, by omega⟩
  have unpacked : x.toModel.unpack = .finite .positive m (exponent - 1074) (by omega) := by
    refine unpack_normal low' high (by omega) ?_
    rw [signBits, Nat.zero_add, split]
    exact bits
  rw [← split]
  refine Eq.trans ?_ (toBits_pack (s := .negative) (e := exponent - 1074) (h := by omega) low' high
    (by omega) (by omega))
  change (Float.Model.pack x.toModel.unpack.neg).toBits.toNat = _
  rw [unpacked]
  rfl

section Whole

variable {n : Nat}

theorem binade_bounds (positive : n ≠ 0) :
    ((2 ^ 52 : Nat) : ℚ) ≤ n * 2 ^ 53 / 2 ^ (n.log2 + 1) ∧
      (n : ℚ) * 2 ^ 53 / 2 ^ (n.log2 + 1) ≤ ((2 ^ 53 : Nat) : ℚ) := by
  have size : (n <<< 53).log2 = 52 + (n.log2 + 1) := by
    rw [log2_shiftLeft positive]
    omega
  obtain ⟨low, high⟩ := kept_bounds size
  rw [Nat.shiftLeft_eq, Nat.cast_mul, Nat.cast_pow, Nat.cast_ofNat] at low high
  exact ⟨low, high.le⟩

theorem twoTo_eq (n : Nat) : twoTo n = 2 ^ n :=
  rfl

theorem twoTo_add (m n : Nat) : twoTo (m + n) = twoTo m * twoTo n :=
  Nat.pow_add 2 m n

/-- Below the bound rounding does not carry past the last exponent. -/
theorem place_lt {r : Nat} (positive : n ≠ 0) (small : n < integerBound)
    (rounds : Rounds r (n * 2 ^ 53 / 2 ^ (n.log2 + 1))) :
    (n.log2 + 1022) * 2 ^ 52 + r < 2047 * 2 ^ 52 := by
  have most := rounds.ge_of_ge (binade_bounds positive).2
  have bound : n + 2 ^ 970 < 2 ^ 54 * 2 ^ 970 := by
    rw [integerBound, show 1024 = 54 + 970 from rfl, twoTo_add, twoTo_eq, twoTo_eq] at small
    exact Nat.add_lt_of_lt_sub small
  have room : n.log2 < 54 + 970 := log2_lt_add positive ((Nat.le_add_right n _).trans_lt bound)
  rcases Nat.lt_or_ge n.log2 1023 with inner | last
  · omega
  -- In the last binade the bound lies half a step above the greatest mantissa.
  · have top : n.log2 + 1 = 54 + 970 := by omega
    have bound' : (n : ℚ) + 2 ^ 970 < 2 ^ 54 * 2 ^ 970 := by exact_mod_cast bound
    have below : (n : ℚ) * 2 ^ 53 / 2 ^ (54 + 970) < 2 ^ 53 - 1 / 2 := by
      rw [div_lt_iff₀ (by positivity), pow_add]
      generalize (2 : ℚ) ^ 970 = step at bound' ⊢
      linarith
    rw [top] at rounds
    generalize (n : ℚ) * 2 ^ 53 / 2 ^ (54 + 970) = q at below rounds
    have near := (abs_le.mp rounds.near).2
    have less : (r : ℚ) < (2 ^ 53 : Nat) := by
      push_cast
      linarith only [near, below]
    have strict : r < 2 ^ 53 := by exact_mod_cast less
    omega

def NearestPlace (rank : Int) (q : ℚ) : Prop :=
  ∀ s : Int, |level rank * leastUnit - q| ≤ |level s * leastUnit - q| ∧
    (|level s * leastUnit - q| = |level rank * leastUnit - q| → s = rank ∨ 2 ∣ rank)

theorem NearestPlace.neg {rank : Int} {q : ℚ} (near : NearestPlace rank q) :
    NearestPlace (-rank) (-q) := by
  intro s
  have mirrored (r : Int) : |(level (-r) : ℚ) * leastUnit - -q| = |level r * leastUnit - q| := by
    rw [level_neg, ← abs_neg]
    congr 1
    push_cast
    ring
  obtain ⟨closest, even⟩ := near (-s)
  have own := mirrored (-s)
  rw [neg_neg] at own
  rw [mirrored, own]
  refine ⟨closest, fun tie => (even tie).imp (fun same => ?_) Int.dvd_neg.mpr⟩
  omega

theorem NearestPlace.nearest {x : Float} {q : ℚ} (near : NearestPlace (rank x) q)
    (finite : isFinite x) : Nearest x q where
  finite := finite
  closest y finite' := by
    rw [number_eq finite, number_eq finite']
    exact (near (rank y)).1
  even y finite' tie := by
    rw [number_eq finite, number_eq finite'] at tie ⊢
    exact ((near (rank y)).2 tie).imp_left fun same => by rw [same]

theorem nearestPlace_whole {r : Nat} (positive : n ≠ 0)
    (rounds : Rounds r (n * 2 ^ 53 / 2 ^ (n.log2 + 1))) :
    NearestPlace ((n.log2 + 1022) * 2 ^ 52 + r : Nat) n := by
  obtain ⟨low, high⟩ := binade_bounds positive
  have scaled : (n : ℚ) * 2 ^ 53 / 2 ^ (n.log2 + 1) * 2 ^ (n.log2 + 1022) * leastUnit = n := by
    have cancels : (2 : ℚ) ^ 53 * 2 ^ 1021 * leastUnit = 1 := by
      rw [leastUnit, ← zpow_natCast, ← zpow_natCast, ← zpow_add₀ two_ne_zero,
        ← zpow_add₀ two_ne_zero]
      rfl
    have split : (2 : ℚ) ^ (n.log2 + 1022) = 2 ^ (n.log2 + 1) * 2 ^ 1021 := by
      rw [← pow_add, add_assoc]
    rw [split, ← mul_assoc, div_mul_cancel₀ _ (by positivity), mul_assoc, mul_assoc,
      ← mul_assoc (2 ^ 53), cancels, mul_one]
  have distance (v : ℚ) : |v * leastUnit - n| =
      |v - n * 2 ^ 53 / 2 ^ (n.log2 + 1) * 2 ^ (n.log2 + 1022)| * leastUnit := by
    conv_lhs => rw [← scaled, ← sub_mul, abs_mul, abs_of_pos leastUnit_pos]
  intro s
  obtain ⟨closest, even⟩ := level_nearest (e := n.log2 + 1022) rounds low high s
  rw [distance, distance]
  refine ⟨mul_le_mul_of_nonneg_right closest leastUnit_pos.le, fun tie => ?_⟩
  refine (even (mul_right_cancel₀ leastUnit_pos.ne' tie)).imp_right fun even => ?_
  omega

theorem place_size (positive : n ≠ 0) (small : n < integerBound) :
    ∃ place : Nat, 2 ^ 52 ≤ place ∧ place < 2047 * 2 ^ 52 ∧
      (Float.ofScientific n false 0).toBits.toNat = place ∧ NearestPlace place n := by
  obtain ⟨r, rounds, low, bits⟩ := placed_size positive
  have range := place_lt positive small rounds
  exact ⟨_, by omega, range, bits range, nearestPlace_whole positive rounds⟩

theorem nearest_size (positive : n ≠ 0) (small : n < integerBound) :
    Nearest (Float.ofScientific n false 0) n ∧ Nearest (-Float.ofScientific n false 0) (-n) := by
  obtain ⟨place, low, range, bits, near⟩ := place_size positive small
  obtain ⟨finite, height⟩ := finite_of_bits range false (by rw [bits]; simp)
  obtain ⟨finite', height'⟩ := finite_of_bits range true (toBits_neg low range bits)
  constructor
  · refine NearestPlace.nearest ?_ finite
    rw [height]
    exact near
  · refine NearestPlace.nearest ?_ finite'
    rw [height']
    exact near.neg

end Whole

theorem nearest_ofInt? {n : Int} {x : Float} (found : ofInt? n = some x) : Nearest x n := by
  unfold ofInt? at found
  split at found
  · rename_i small
    cases found
    rcases lt_trichotomy n 0 with negative | zero | positive
    · have own : (n : ℚ) = -(n.natAbs : Nat) := by
        rw [← Int.cast_natCast, ← Int.cast_neg, Int.natCast_natAbs, abs_of_neg negative, neg_neg]
      rw [if_pos negative, own]
      exact (nearest_size (by omega) small).2
    · subst zero
      have bits : (Float.ofScientific 0 false 0).toBits.toNat = (if false then 2 ^ 63 else 0) + 0 :=
        rfl
      obtain ⟨finite, height⟩ := finite_of_bits (by decide) false bits
      have nought : number (Float.ofScientific 0 false 0) = ((0 : Int) : ℚ) := by
        rw [number_eq finite, height]
        exact mul_eq_zero.mpr (.inl rfl)
      rw [if_neg (lt_irrefl 0), ← nought]
      exact nearest_number finite
    · have own : (n : ℚ) = (n.natAbs : Nat) := by
        rw [← Int.cast_natCast, Int.natCast_natAbs, abs_of_pos positive]
      rw [if_neg (by omega), own]
      exact (nearest_size (by omega) small).1
  · cases found

end DeckPress.Decimal
