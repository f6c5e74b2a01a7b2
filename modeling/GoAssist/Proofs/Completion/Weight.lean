import GoAssist.Completion.Ranking
import Mathlib

/-!
# Weights of similar labels

A similarity is weighed by four fifths of its degree, in double precision. If the degree is positive
and not more than one, the product is rounded to a number below one (`toBits_mul_lt_of_le_one`), so a
beginning weighs more than every similarity. The numbers from zero to one are those whose bit patterns
do not come after that of one (`InUnit`). They are ordered as their bit patterns are
(`InUnit.lt_iff`), so their total order is the order of numbers (`InUnit.orderKey_lt_iff`).
-/

namespace GoAssist

open Float.Model Float.Model.UnpackedFloat

/-- A number from zero to one. -/
def InUnit (x : Float) : Prop :=
  x.toBits.toNat ≤ (1.0 : Float).toBits.toNat

theorem toBits_one : (1.0 : Float).toBits.toNat = 1023 * 2 ^ 52 := rfl

/-! ## Bit patterns -/

theorem toNat_unpackExponent (bits : BitVec 64) :
    (@unpackExponent Format.binary64 bits).toNat = bits.toNat / 2 ^ 52 % 2 ^ 11 := by
  simp [unpackExponent, Nat.shiftRight_eq_div_pow]

theorem toNat_unpackMantissa (bits : BitVec 64) :
    (@unpackMantissa Format.binary64 bits).toNat = bits.toNat % 2 ^ 52 := by
  simp [unpackMantissa]

theorem toNat_unpackSign (bits : BitVec 64) :
    (@unpackSign Format.binary64 bits).toNat = bits.toNat / 2 ^ 63 % 2 := by
  simp [unpackSign, Nat.shiftRight_eq_div_pow]

theorem toNat_implicit_append (m : BitVec 52) : (1#1 ++ m).toNat = 2 ^ 52 + m.toNat := by
  rw [BitVec.toNat_append, ← Nat.shiftLeft_add_eq_or_of_lt m.isLt]
  rfl

/-- The significand of the number with a bit pattern. -/
def significand (bits : Nat) : Nat :=
  if bits < 2 ^ 52 then bits else 2 ^ 52 + bits % 2 ^ 52

/-- The exponent of the number with a bit pattern, for a significand that is a whole number. -/
def exponent (bits : Nat) : Int :=
  (max 1 (bits / 2 ^ 52) : Nat) - 1075

theorem significand_pos {bits : Nat} (h : 0 < bits) : 0 < significand bits := by
  rw [significand]
  split <;> omega

/-- A bit pattern before that of the infinite spells a positive number. -/
theorem unpack_of_toNat_lt {bits : BitVec 64} (hpos : 0 < bits.toNat)
    (hfinite : bits.toNat < 2047 * 2 ^ 52) :
    UnpackedFloat.unpack Format.binary64 bits
      = .finite .positive (significand bits.toNat) (exponent bits.toNat) (significand_pos hpos) := by
  have hexponent := toNat_unpackExponent bits
  have hmantissa := toNat_unpackMantissa bits
  have hsign : @unpackSign Format.binary64 bits = 0#1 := by
    apply BitVec.eq_of_toNat_eq
    rw [toNat_unpackSign]
    simp only [BitVec.toNat_zero]
    omega
  have hordinary : @unpackExponent Format.binary64 bits ≠ -1#_ := by
    intro h
    have hones : (-1#11).toNat = 2047 := rfl
    rw [← BitVec.toNat_inj, hexponent, hones] at h
    omega
  have hsubnormal : @unpackExponent Format.binary64 bits = 0#_ ↔ bits.toNat < 2 ^ 52 := by
    rw [← BitVec.toNat_inj, hexponent, BitVec.toNat_zero]
    omega
  rw [UnpackedFloat.unpack]
  simp only [hordinary, if_false, hsubnormal, hsign]
  by_cases hsmall : bits.toNat < 2 ^ 52
  · have hnonzero : @unpackMantissa Format.binary64 bits ≠ 0#_ := by
      rw [ne_eq, ← BitVec.toNat_inj, hmantissa, BitVec.toNat_zero]
      omega
    simp only [hsmall, if_true, hnonzero, dif_neg, not_false_iff, UnpackedFloat.finite.injEq,
      hexponent, hmantissa, significand, exponent, Format.exponentBias]
    refine ⟨rfl, ?_, ?_⟩ <;> omega
  · simp only [hsmall, if_false, UnpackedFloat.finite.injEq, toNat_implicit_append, hexponent,
      hmantissa, significand, exponent, Format.exponentBias]
    refine ⟨rfl, trivial, ?_⟩
    omega

theorem unpack_of_toNat_eq_zero {bits : BitVec 64} (h : bits.toNat = 0) :
    UnpackedFloat.unpack Format.binary64 bits = .zero .positive := by
  obtain rfl : bits = 0#64 := BitVec.eq_of_toNat_eq h
  rfl

/-- A significand has 53 bits at most. -/
theorem mantissa_lt_of_unpack {bits : BitVec 64} {sign : Sign} {m : Nat} {e : Int} {hpos : 0 < m}
    (h : UnpackedFloat.unpack Format.binary64 bits = .finite sign m e hpos) : m < 2 ^ 53 := by
  have hbound : (@unpackMantissa Format.binary64 bits).toNat < 2 ^ 52 := BitVec.isLt _
  rw [UnpackedFloat.unpack] at h
  split at h
  · split at h <;> cases h
  · split at h
    · split at h
      · cases h
      · injection h with _ hm
        rw [← hm]
        exact Nat.lt_of_lt_of_le hbound (by decide)
    · injection h with _ hm
      rw [← hm, toNat_implicit_append]
      omega

/-! ## Order -/

theorem lt_iff_compare (x y : Float) :
    x < y ↔ x.toModel.unpack.compare y.toModel.unpack = some .lt := by
  have hlt : x < y ↔ (x.toModel.unpack.compare y.toModel.unpack == some .lt) = true :=
    ⟨of_decide_eq_true, fun h => decide_eq_true h⟩
  rw [hlt, beq_iff_eq]

/-- Numbers from zero to one are ordered as their bit patterns are. -/
theorem InUnit.lt_iff {x y : Float} (hx : InUnit x) (hy : InUnit y) :
    x < y ↔ x.toBits.toNat < y.toBits.toNat := by
  rw [InUnit, toBits_one] at hx hy
  have hunpack : ∀ z : Float, z.toModel.unpack
      = UnpackedFloat.unpack Format.binary64 z.toBits.toBitVec := fun _ => rfl
  have hbits : ∀ z : Float, z.toBits.toBitVec.toNat = z.toBits.toNat := fun _ => rfl
  rw [lt_iff_compare, hunpack, hunpack]
  rcases Nat.eq_zero_or_pos x.toBits.toNat with hx0 | hxpos
  · rcases Nat.eq_zero_or_pos y.toBits.toNat with hy0 | hypos
    · rw [unpack_of_toNat_eq_zero hx0, unpack_of_toNat_eq_zero hy0, hx0, hy0]
      decide
    · rw [unpack_of_toNat_eq_zero hx0, unpack_of_toNat_lt hypos (by rw [hbits]; omega), hx0]
      exact iff_of_true rfl hypos
  · rcases Nat.eq_zero_or_pos y.toBits.toNat with hy0 | hypos
    · rw [unpack_of_toNat_lt hxpos (by rw [hbits]; omega), unpack_of_toNat_eq_zero hy0, hy0]
      exact iff_of_false (fun h => nomatch h) (Nat.not_lt_zero _)
    · rw [unpack_of_toNat_lt hxpos (by rw [hbits]; omega),
        unpack_of_toNat_lt hypos (by rw [hbits]; omega)]
      simp only [UnpackedFloat.compare, Option.some.injEq, Ordering.then_eq_lt,
        Std.LawfulEqOrd.compare_eq_iff_eq, Int.compare_eq_lt, Nat.compare_eq_lt, hbits,
        significand, exponent]
      split <;> split <;> omega

/-! ## Rounding -/

theorem mantissa_shiftRight (em : ExtendedMantissa) (n : Nat) :
    (em >>> n).mantissa = em.mantissa / 2 ^ n := by
  induction n with
  | zero => exact (Nat.div_one _).symm
  | succ n ih =>
      have hstep : (em >>> (n + 1)).mantissa = (em >>> n).mantissa / 2 := rfl
      rw [hstep, ih, Nat.div_div_eq_div_mul, Nat.pow_succ]

theorem roundedMantissa_le (em : ExtendedMantissa) : em.roundedMantissa ≤ em.mantissa + 1 := by
  obtain ⟨mantissa, round, sticky⟩ := em
  cases round <;> cases sticky <;>
    simp only [ExtendedMantissa.roundedMantissa, ExtendedMantissa.accuracy,
      Accuracy.roundToNearestEven] <;> omega

/-- An exact significand is cut so far that it has 53 bits at most. -/
theorem shiftToTargetExponent_exact (m : Nat) (e : Int) :
    ∃ n : Nat, e + n = max e (max (m.log2 + e - 52) (-1074))
      ∧ (shiftToTargetExponent Format.binary64 m e .exact).1.mantissa = m / 2 ^ n
      ∧ (shiftToTargetExponent Format.binary64 m e .exact).2 = e + n := by
  have htarget : Format.binary64.targetExponent (totalExponent m e)
      = max (m.log2 + 1 + e - 53) (-1074) := rfl
  refine ⟨(Format.binary64.targetExponent (totalExponent m e) - e).toNat, ?_,
    mantissa_shiftRight _ _, rfl⟩
  rw [htarget]
  omega

theorem log2_lt_of_lt {m n : Nat} (hn : 0 < n) (h : m < 2 ^ n) : m.log2 < n := by
  rcases Nat.eq_zero_or_pos m with rfl | hm
  · rwa [Nat.log2_zero]
  · exact (Nat.log2_lt hm.ne').mpr h

theorem toNat_packComponents_positive (e : BitVec 11) (m : BitVec 52) :
    (packComponents Format.binary64 .positive e m).toNat = e.toNat * 2 ^ 52 + m.toNat := by
  have happend : packComponents Format.binary64 .positive e m = 0#1 ++ e ++ m := rfl
  rw [happend, BitVec.toNat_append, ← Nat.shiftLeft_add_eq_or_of_lt m.isLt, BitVec.toNat_append]
  simp [Nat.shiftLeft_eq]

/-- With an exponent of at most −53 a number has a bit pattern before that of one. -/
theorem toBits_pack_lt {m : Nat} {e : Int} (hpos : 0 < m) (he : e ≤ -53) :
    (Float.Model.pack (.finite .positive m e hpos)).toBits.toNat < 1023 * 2 ^ 52 := by
  have hpack : (Float.Model.pack (.finite .positive m e hpos)).toBits.toNat
      = (UnpackedFloat.pack Format.binary64 (.finite .positive m e hpos)).toNat := rfl
  have hbiased : (e + Format.binary64.exponentBias
      + Format.binary64.mantissaBitsWithoutImplicit).toNat ≤ 1022 := by
    simp only [Format.exponentBias]
    omega
  have hm := (BitVec.ofNat 52 m).isLt
  rw [hpack, UnpackedFloat.pack]
  generalize (e + Format.binary64.exponentBias
    + Format.binary64.mantissaBitsWithoutImplicit).toNat = biased at hbiased ⊢
  have hfits : ¬2 ^ Format.binary64.exponentBits ≤ biased + 1 := by
    simp only [not_le]
    omega
  simp only [hfits, if_false]
  split
  · rw [toNat_packComponents_positive, BitVec.toNat_ofNat]
    have := Nat.mod_le biased (2 ^ 11)
    omega
  · rw [toNat_packComponents_positive, BitVec.toNat_zero]
    omega

/-- What is less than the largest number below one is rounded to a number below one. -/
theorem toBits_roundWithAccuracy_lt {m k : Nat} {e : Int} (he : e + k = -53)
    (hm : m < (2 ^ 53 - 1) * 2 ^ k) :
    (Float.Model.pack (roundWithAccuracy Format.binary64 .positive m e .exact)).toBits.toNat
      < 1023 * 2 ^ 52 := by
  have hround : roundWithAccuracy Format.binary64 .positive m e .exact
      = let first := shiftToTargetExponent Format.binary64 m e .exact
        let second := shiftToTargetExponent Format.binary64 first.1.roundedMantissa first.2 .exact
        if h : second.1.mantissa = 0 then .zero .positive
        else .finite .positive second.1.mantissa second.2 (Nat.pos_of_ne_zero h) := rfl
  rw [hround]
  obtain ⟨n, hn, hcut, hfirst⟩ := shiftToTargetExponent_exact m e
  have hrounded := roundedMantissa_le (shiftToTargetExponent Format.binary64 m e .exact).1
  rw [hcut] at hrounded
  generalize shiftToTargetExponent Format.binary64 m e .exact = first at *
  obtain ⟨i, hi, -, hsecond⟩ := shiftToTargetExponent_exact first.1.roundedMantissa first.2
  have hlog : m.log2 < 53 + k := by
    refine log2_lt_of_lt (by omega) (Nat.lt_of_lt_of_le hm ?_)
    rw [Nat.pow_add]
    exact Nat.mul_le_mul_right _ (by decide)
  have hbound : first.2 + i ≤ -53 := by
    by_cases hk : n = k
    · -- All bits below those of the result are cut off, so rounding up does not reach one.
      have hless : m / 2 ^ n < 2 ^ 53 - 1 :=
        (Nat.div_lt_iff_lt_mul (Nat.two_pow_pos n)).mpr (hk ▸ hm)
      have := log2_lt_of_lt (m := first.1.roundedMantissa) (n := 53) (by decide) (by omega)
      omega
    · -- The result is below one half before it is rounded up.
      have hless : m / 2 ^ n < 2 ^ 53 := by
        rw [Nat.div_lt_iff_lt_mul (Nat.two_pow_pos n), ← Nat.pow_add]
        exact Nat.lt_of_lt_of_le Nat.lt_log2_self (Nat.pow_le_pow_right (by decide) (by omega))
      have := log2_lt_of_lt (m := first.1.roundedMantissa) (n := 54) (by decide) (by omega)
      omega
  dsimp only
  split
  · decide
  · exact toBits_pack_lt _ (hsecond ▸ hbound)

/-! ## Four fifths -/

theorem unpack_four_fifths : (0.8 : Float).toModel.unpack
    = .finite .positive 7205759403792794 (-53) (by decide) := rfl

/-- What is above a positive number and not above one is positive, and its parts are not above those
of one. -/
theorem unpack_of_le_one {x : Float} (hpos : 0.7 < x) (hle : x ≤ 1.0) :
    ∃ m e hm, x.toModel.unpack = .finite .positive m e hm ∧ m < 2 ^ 53
      ∧ (e < -52 ∨ e = -52 ∧ m ≤ 2 ^ 52) := by
  rw [lt_iff_compare] at hpos
  have hle : ((x.toModel.unpack.compare (1.0 : Float).toModel.unpack).any (·.isLE)) = true :=
    of_decide_eq_true hle
  have hseven : (0.7 : Float).toModel.unpack
      = .finite .positive 6305039478318694 (-53) (by decide) := rfl
  have hone : (1.0 : Float).toModel.unpack = .finite .positive (2 ^ 52) (-52) (by decide) := rfl
  rw [hseven] at hpos
  rw [hone] at hle
  have hshape : ∀ {sign m e hm}, x.toModel.unpack = .finite sign m e hm → m < 2 ^ 53 :=
    fun h => mantissa_lt_of_unpack h
  cases hx : x.toModel.unpack with
  | notANumber =>
      rw [hx] at hle
      cases hle
  | infinity sign =>
      rw [hx] at hle hpos
      cases sign
      · cases hpos
      · cases hle
  | zero sign =>
      rw [hx] at hpos
      cases hpos
  | finite sign m e hm =>
      rw [hx] at hle hpos
      cases sign with
      | negative => cases hpos
      | positive =>
          refine ⟨m, e, hm, rfl, hshape hx, ?_⟩
          simp only [UnpackedFloat.compare, Option.any_some, Ordering.isLE_iff_ne_gt,
            Ordering.then_eq_gt, Int.compare_eq_gt, Nat.compare_eq_gt,
            Std.LawfulEqOrd.compare_eq_iff_eq] at hle
          omega

/-- Four fifths of a number that is above 0.7 and not above one are below one. -/
theorem toBits_mul_lt_of_le_one {x : Float} (hpos : 0.7 < x) (hle : x ≤ 1.0) :
    (x * 0.8).toBits.toNat < (1.0 : Float).toBits.toNat := by
  obtain ⟨m, e, hm, hx, hbound, hcases⟩ := unpack_of_le_one hpos hle
  have hmul : (x * 0.8).toBits = (Float.Model.pack (UnpackedFloat.mul Format.binary64
      x.toModel.unpack (0.8 : Float).toModel.unpack)).toBits := rfl
  have hproduct : UnpackedFloat.mul Format.binary64 (.finite .positive m e hm)
      (.finite .positive 7205759403792794 (-53) (by decide))
      = roundWithAccuracy Format.binary64 .positive (m * 7205759403792794) (e + -53) .exact := rfl
  rw [hmul, hx, unpack_four_fifths, hproduct, toBits_one]
  refine toBits_roundWithAccuracy_lt (k := (-e).toNat) (by omega) ?_
  rcases hcases with hlt | ⟨rfl, hm⟩
  · calc
      m * 7205759403792794 < 2 ^ 53 * 7205759403792794 := by omega
      _ ≤ (2 ^ 53 - 1) * 2 ^ 53 := by decide
      _ ≤ (2 ^ 53 - 1) * 2 ^ (-e).toNat :=
          Nat.mul_le_mul_left _ (Nat.pow_le_pow_right (by decide) (by omega))
  · have hk : (-(-52 : Int)).toNat = 52 := rfl
    rw [hk]
    omega

/-! ## The total order -/

theorem orderKey_of_inUnit {x : Float} (h : InUnit x) : orderKey x = (x.toBits.toNat : Int) := by
  rw [InUnit, toBits_one] at h
  rw [orderKey]
  exact if_pos (by omega)

/-- The total order of numbers from zero to one is the order of numbers. -/
theorem InUnit.orderKey_lt_iff {x y : Float} (hx : InUnit x) (hy : InUnit y) :
    orderKey x < orderKey y ↔ x < y := by
  rw [orderKey_of_inUnit hx, orderKey_of_inUnit hy, hx.lt_iff hy, Int.ofNat_lt]

/-- Numbers at the same place of the total order are the same. -/
theorem orderKey_injective {x y : Float} (h : orderKey x = orderKey y) : x = y := by
  have hbits : x.toBits.toNat = y.toBits.toNat := by
    rw [orderKey, orderKey] at h
    have := x.toBits.toNat_lt
    have := y.toBits.toNat_lt
    split at h <;> split at h <;> omega
  obtain ⟨⟨xbits, _⟩⟩ := x
  obtain ⟨⟨ybits, _⟩⟩ := y
  obtain rfl : xbits = ybits := UInt64.toNat_inj.mp hbits
  rfl

end GoAssist
