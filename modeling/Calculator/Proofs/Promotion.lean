import Mathlib
import Calculator.Proofs.Kinds

/-! # Integers widened to floats

An operation with a float operand is the float operation on both operands widened
(`Number.toFloat`), so widening the integer operand first changes nothing
(`BinaryOp.apply_widen`); `log`, `ln`, `sqrt`, `sin`, `cos`, `tan` and `ctg` read their input as
a float whatever its kind (`UnaryOp.apply_widen`).

Division tests its divisor for zero before it looks at kinds, and the test answers the same on a
widened integer, because the only 32-bit integer whose float equals zero is `0`
(`Float.ofInt_toInt_beq_zero`). That is proved in the logical model of binary64 that the floats
carry (`Float.toModel`): an integer of at most 53 bits rounds exactly to a normal float, and
multiplying it by one or negating it leaves that normal float, never a zero.
-/

namespace Calculator

set_option autoImplicit false

/-! ## Small integers as binary64 floats -/

section Binary64

open Float.Model UnpackedFloat

theorem shiftRight_mul_two_pow (a k : Nat) :
    (⟨a * 2 ^ k, false, false⟩ : ExtendedMantissa) >>> k = ⟨a, false, false⟩ := by
  induction k generalizing a with
  | zero => simp only [Nat.pow_zero, Nat.mul_one]; rfl
  | succ k ih =>
    show ExtendedMantissa.shiftRightOne ((⟨a * 2 ^ (k + 1), false, false⟩ : ExtendedMantissa) >>> k) = _
    rw [show a * 2 ^ (k + 1) = (a * 2) * 2 ^ k by rw [Nat.pow_succ, Nat.mul_assoc, Nat.mul_comm 2]]
    rw [ih]
    simp [ExtendedMantissa.shiftRightOne]

theorem log2_mul_two_pow {M : Nat} (k : Nat) (h1 : 2 ^ 52 ≤ M) (h2 : M < 2 ^ 53) :
    (M * 2 ^ k).log2 = 52 + k := by
  have hpos : M * 2 ^ k ≠ 0 := Nat.mul_ne_zero (by omega) (by have := Nat.two_pow_pos k; omega)
  rw [Nat.log2_eq_iff hpos]
  constructor
  · rw [Nat.pow_add]; exact Nat.mul_le_mul_right _ h1
  · rw [show 52 + k + 1 = 53 + k by omega, Nat.pow_add]
    exact Nat.mul_lt_mul_of_pos_right h2 (Nat.two_pow_pos k)

theorem binary64_mantissaBits : (Format.binary64.mantissaBits : Int) = 53 := rfl

theorem binary64_minExponent : Format.binary64.minExponent = -1074 := by decide

theorem targetExponent_mul_two_pow {M : Nat} (k : Nat) (E : Int) (h1 : 2 ^ 52 ≤ M)
    (h2 : M < 2 ^ 53) (hE : -1074 ≤ E) :
    Format.binary64.targetExponent (totalExponent (M * 2 ^ k) (E - k)) = E := by
  simp only [Format.targetExponent, totalExponent, log2_mul_two_pow k h1 h2,
    binary64_mantissaBits, binary64_minExponent]
  omega

theorem roundWithAccuracy_exact (s : Sign) {M : Nat} (k : Nat) (E : Int) (h1 : 2 ^ 52 ≤ M)
    (h2 : M < 2 ^ 53) (hE : -1074 ≤ E) (hM : 0 < M) :
    roundWithAccuracy .binary64 s (M * 2 ^ k) (E - k) .exact = .finite s M E hM := by
  unfold roundWithAccuracy shiftToTargetExponent shiftToExponent
  -- both shifts aim at the exponent `E`: the first shifts the `k` zero bits out, the second none
  have ht := targetExponent_mul_two_pow k E h1 h2 hE
  have ht' : Format.binary64.targetExponent (totalExponent M E) = E := by
    simpa using targetExponent_mul_two_pow 0 E h1 h2 hE
  simp only [ht, show (E - (E - k)).toNat = k by omega, ExtendedMantissa.ofMantissaAndAccuracy,
    shiftRight_mul_two_pow]
  have hr : ({ mantissa := M, roundBit := false, stickyBit := false } :
      ExtendedMantissa).roundedMantissa = M := rfl
  have h0 : ({ mantissa := M, roundBit := false, stickyBit := false } : ExtendedMantissa) >>> 0 =
      ⟨M, false, false⟩ := rfl
  simp only [hr, Int.sub_add_cancel, ht', Int.sub_self, Int.toNat_zero, h0, Int.natCast_zero,
    Int.add_zero]
  rw [dif_neg (by omega)]

theorem roundWithAccuracy_normal (s : Sign) {M : Nat} {E : Int} (h1 : 2 ^ 52 ≤ M) (h2 : M < 2 ^ 53)
    (hE : -1074 ≤ E) (hM : 0 < M) :
    roundWithAccuracy .binary64 s M E .exact = .finite s M E hM := by
  simpa using roundWithAccuracy_exact s 0 E h1 h2 hE hM

theorem finite_eq_finite {s : Sign} {m m' : Nat} {e e' : Int} {h : 0 < m} {h' : 0 < m'}
    (hm : m = m') (he : e = e') : UnpackedFloat.finite s m e h = .finite s m' e' h' := by
  subst hm he
  rfl

theorem unpackSign_packComponents (s : Sign) (e : BitVec 11) (m : BitVec 52) :
    Sign.ofBitVec (unpackSign (packComponents .binary64 s e m)) = s := by
  change Sign.ofBitVec ((s.toBitVec ++ e ++ m).extractLsb' 63 1) = s
  rw [BitVec.extractLsb'_append_eq_of_le (by decide),
    BitVec.extractLsb'_append_eq_of_le (by decide)]
  cases s <;> rfl

theorem unpack_pack_normal (s : Sign) {M : Nat} {E : Int} (h1 : 2 ^ 52 ≤ M) (h2 : M < 2 ^ 53)
    (hlo : -1074 ≤ E) (hhi : E ≤ 971) (hM : 0 < M) :
    UnpackedFloat.unpack .binary64 (UnpackedFloat.pack .binary64 (.finite s M E hM)) =
      .finite s M E hM := by
  have hlog : M.log2 = 52 := by simpa using log2_mul_two_pow 0 h1 h2
  unfold UnpackedFloat.pack
  simp only [hlog]
  have hbias : Format.binary64.exponentBias = 1023 := rfl
  have hbits : Format.binary64.mantissaBits = 53 := rfl
  rw [hbias, hbits, if_neg (by omega), if_pos rfl]
  unfold UnpackedFloat.unpack
  simp only [unpackExponent_packComponents, unpackMantissa_packComponents,
    unpackSign_packComponents]
  -- the biased exponent is neither all ones (infinite) nor zero (subnormal)
  have hb : (BitVec.ofNat 11 (E + ((1023 : Nat) : Int) + ((52 : Nat) : Int)).toNat).toNat =
      (E + 1075).toNat := by
    rw [BitVec.toNat_ofNat]
    omega
  have he1 : BitVec.ofNat 11 (E + ((1023 : Nat) : Int) + ((52 : Nat) : Int)).toNat ≠ -1#11 :=
    BitVec.toNat_ne.2 (by rw [hb]; simp; omega)
  have he0 : BitVec.ofNat 11 (E + ((1023 : Nat) : Int) + ((52 : Nat) : Int)).toNat ≠ 0#11 :=
    BitVec.toNat_ne.2 (by rw [hb]; simp; omega)
  rw [if_neg he1, if_neg he0]
  have hm : (1#1 ++ BitVec.ofNat 52 M).toNat = M := by
    rw [BitVec.toNat_append, ← Nat.shiftLeft_add_eq_or_of_lt (BitVec.isLt _)]
    simp
    omega
  have he : (((BitVec.ofNat 11 (E + ((1023 : Nat) : Int) + ((52 : Nat) : Int)).toNat).toNat : Nat) :
      Int) - ((Format.binary64.exponentBias : Nat) + ((52 : Nat) : Int)) = E := by
    rw [hb, hbias]
    omega
  exact finite_eq_finite hm he

theorem round_of_lt_two_pow (s : Sign) {n : Nat} (h0 : 0 < n) (h53 : n < 2 ^ 53) :
    ∃ M E hM, 2 ^ 52 ≤ M ∧ M < 2 ^ 53 ∧ -52 ≤ E ∧ E ≤ 0 ∧
      UnpackedFloat.round .binary64 s n 0 = .finite s M E hM := by
  have hL1 : 2 ^ n.log2 ≤ n := Nat.log2_self_le (by omega)
  have hL2 : n < 2 ^ (n.log2 + 1) := Nat.lt_log2_self
  have hL : n.log2 ≤ 52 := by
    rcases Nat.lt_or_ge n.log2 53 with h | h
    · omega
    · have := Nat.pow_le_pow_right (show 0 < 2 by decide) h
      omega
  -- the mantissa is `n` shifted left until its top bit is bit 52
  have hlo : 2 ^ 52 ≤ n * 2 ^ (52 - n.log2) := by
    calc 2 ^ 52 = 2 ^ n.log2 * 2 ^ (52 - n.log2) := by rw [← Nat.pow_add]; congr 1; omega
      _ ≤ n * 2 ^ (52 - n.log2) := Nat.mul_le_mul_right _ hL1
  have hhi : n * 2 ^ (52 - n.log2) < 2 ^ 53 := by
    calc n * 2 ^ (52 - n.log2) < 2 ^ (n.log2 + 1) * 2 ^ (52 - n.log2) :=
          Nat.mul_lt_mul_of_pos_right hL2 (Nat.two_pow_pos _)
      _ = 2 ^ 53 := by rw [← Nat.pow_add]; congr 1; omega
  refine ⟨_, _, by omega, hlo, hhi, show -52 ≤ ((n.log2 : Nat) : Int) - 52 by omega,
    show ((n.log2 : Nat) : Int) - 52 ≤ 0 by omega, ?_⟩
  unfold UnpackedFloat.round decreaseExponent
  have ht : Format.binary64.targetExponent (totalExponent n 0) = (n.log2 : Int) - 52 := by
    simp only [Format.targetExponent, totalExponent, binary64_mantissaBits, binary64_minExponent]
    omega
  simp only [ht, show (0 - ((n.log2 : Int) - 52)).toNat = 52 - n.log2 by omega, Nat.shiftLeft_eq]
  rw [show (0 : Int) - ((52 - n.log2 : Nat) : Int) = (n.log2 : Int) - 52 by omega]
  exact roundWithAccuracy_normal s hlo hhi (by omega) _

theorem unpack_toModel_mul (a b : Float) : (a * b).toModel.unpack =
    UnpackedFloat.unpack .binary64
      (UnpackedFloat.pack .binary64 (UnpackedFloat.mul .binary64 a.toModel.unpack b.toModel.unpack)) :=
  rfl

theorem unpack_toModel_neg (a : Float) : (-a).toModel.unpack =
    UnpackedFloat.unpack .binary64 (UnpackedFloat.pack .binary64 a.toModel.unpack.neg) :=
  rfl

theorem unpack_ofBits_one : (Float.ofBits 4607182418800017408).toModel.unpack =
    .finite .positive (2 ^ 52) (-52) (Nat.two_pow_pos 52) := by
  rfl

theorem ofNat_eq_toFloat_mul_one {n : Nat} (h53 : n < 2 ^ 53) :
    Float.ofNat n = n.toUInt64.toFloat * Float.ofBits 4607182418800017408 := by
  show Float.ofScientific n false 0 = _
  unfold Float.ofScientific
  rw [dif_pos ⟨h53, Nat.zero_le _⟩]
  rfl

theorem unpack_toUInt64_toFloat {n : Nat} (h0 : 0 < n) (h53 : n < 2 ^ 53) :
    n.toUInt64.toFloat.toModel.unpack = UnpackedFloat.unpack .binary64
      (UnpackedFloat.pack .binary64 (UnpackedFloat.round .binary64 .positive n 0)) := by
  have hn : n.toUInt64.toNat = n := by
    rw [Nat.toUInt64, UInt64.toNat_ofNat']
    omega
  show UnpackedFloat.unpack .binary64
      (UnpackedFloat.pack .binary64 (UnpackedFloat.ofInt .binary64 (n.toUInt64.toNat : Int))) = _
  rw [hn]
  unfold UnpackedFloat.ofInt UnpackedFloat.normalize
  have hc : compare (n : Int) 0 = .gt := by
    rw [Int.compare_eq_gt]
    omega
  rw [hc]
  rfl

theorem unpack_ofNat_normal {n : Nat} (h0 : 0 < n) (h53 : n < 2 ^ 53) :
    ∃ M E hM, 2 ^ 52 ≤ M ∧ M < 2 ^ 53 ∧ -52 ≤ E ∧ E ≤ 0 ∧
      (Float.ofNat n).toModel.unpack = .finite .positive M E hM := by
  obtain ⟨M, E, hM, h1, h2, hlo, hhi, hround⟩ := round_of_lt_two_pow .positive h0 h53
  have hnormal := unpack_pack_normal .positive h1 h2 (show -1074 ≤ E by omega) (by omega) hM
  -- multiplying by one is exact: the product of the mantissas is `M` followed by 52 zero bits
  have hprod : UnpackedFloat.mul .binary64 (.finite .positive M E hM)
      (.finite .positive (2 ^ 52) (-52) (Nat.two_pow_pos 52)) = .finite .positive M E hM := by
    show roundWithAccuracy .binary64 (.positive * .positive) (M * 2 ^ 52) (E + -52) .exact = _
    rw [show E + -52 = E - (52 : Nat) by omega]
    exact roundWithAccuracy_exact _ 52 E h1 h2 (by omega) hM
  refine ⟨M, E, hM, h1, h2, hlo, hhi, ?_⟩
  rw [ofNat_eq_toFloat_mul_one h53, unpack_toModel_mul, unpack_toUInt64_toFloat h0 h53, hround,
    hnormal, unpack_ofBits_one, hprod, hnormal]

theorem unpack_ofInt_finite {z : Int} (h0 : z ≠ 0) (h53 : z.natAbs < 2 ^ 53) :
    ∃ s M E hM, (Float.ofInt z).toModel.unpack = .finite s M E hM := by
  cases z with
  | ofNat n =>
    rw [Int.ofNat_eq_natCast] at h0 h53
    obtain ⟨M, E, hM, -, -, -, -, h⟩ := unpack_ofNat_normal (n := n) (by omega) (by omega)
    exact ⟨.positive, M, E, hM, h⟩
  | negSucc n =>
    obtain ⟨M, E, hM, h1, h2, hlo, hhi, h⟩ :=
      unpack_ofNat_normal (n := n + 1) (by omega) (by simp at h53; omega)
    refine ⟨.negative, M, E, hM, ?_⟩
    show (-(Float.ofNat (n + 1))).toModel.unpack = _
    rw [unpack_toModel_neg, h]
    exact unpack_pack_normal _ h1 h2 (by omega) (by omega) hM

theorem ofInt_beq_zero {z : Int} (h53 : z.natAbs < 2 ^ 53) : (Float.ofInt z == 0) = true ↔ z = 0 := by
  by_cases h0 : z = 0
  · subst h0
    exact iff_of_true rfl rfl
  · obtain ⟨s, M, E, hM, h⟩ := unpack_ofInt_finite h0 h53
    -- a finite float compares above or below zero, never equal to it
    have hzero : (0 : Float).toModel.unpack = .zero .positive := rfl
    show (Float.ofInt z).toModel.unpack.beq (0 : Float).toModel.unpack = true ↔ z = 0
    rw [h, hzero]
    cases s <;> exact iff_of_false Bool.false_ne_true h0

end Binary64

/-- The only 32-bit integer whose float equals zero is `0`. -/
theorem Float.ofInt_toInt_beq_zero (n : Int32) : (Float.ofInt n.toInt == 0) = true ↔ n = 0 := by
  have hlo := Int32.le_toInt n
  have hhi := Int32.toInt_lt n
  rw [ofInt_beq_zero (by omega), ← Int32.toInt_zero, Int32.toInt_inj]

/-! ## Mixed operands -/

@[simp] theorem Number.toFloat_float (x : Float) : (Number.float x).toFloat = x := rfl

theorem Number.isZero_widen (y : Number) : (Number.float y.toFloat).isZero = y.isZero := by
  cases y with
  | int n =>
    show (Float.ofInt n.toInt == 0) = (n == 0)
    rw [Bool.eq_iff_iff, Float.ofInt_toInt_beq_zero, beq_iff_eq]
  | float x => rfl

theorem Number.isZero_iff (y : Number) :
    y.isZero = true ↔ y = .int 0 ∨ ∃ z : Float, y = .float z ∧ (z == 0) = true := by
  cases y with
  | int n =>
    show (n == 0) = true ↔ _
    simp
  | float x =>
    show (x == 0) = true ↔ _
    simp

section Widen

variable {x y : Number}

theorem promoted_widen (gi : Int → Int → Int) (gf : Float → Float → Float)
    (hk : ¬(x.kind = .integer ∧ y.kind = .integer)) :
    promoted gi gf x y = promoted gi gf (.float x.toFloat) (.float y.toFloat) := by
  cases x <;> cases y <;> simp_all [promoted]

theorem bitwise_widen (op : BinaryOp) (g : Int32 → Int32 → Int32)
    (hk : ¬(x.kind = .integer ∧ y.kind = .integer)) :
    bitwise op g x y = bitwise op g (.float x.toFloat) (.float y.toFloat) := by
  cases x <;> cases y <;> simp_all [bitwise]

/-- An operation on two numbers that are not both integers is the operation on the two
widened to floats. -/
theorem BinaryOp.apply_widen (op : BinaryOp) (hk : ¬(x.kind = .integer ∧ y.kind = .integer)) :
    op.apply x y = op.apply (.float x.toFloat) (.float y.toFloat) := by
  cases op
  case divide =>
    simp only [apply, Number.isZero_widen]
    rw [promoted_widen _ _ hk]
  case power =>
    cases x <;> cases y <;> simp_all [apply]
  case and | or | xor =>
    simp only [apply]
    exact bitwise_widen _ _ hk
  all_goals
    simp only [apply]
    exact promoted_widen _ _ hk

end Widen

theorem UnaryOp.apply_widen {op : UnaryOp}
    (hop : op ∈ [UnaryOp.log, .ln, .sqrt, .sin, .cos, .tan, .ctg]) (x : Number) :
    op.apply x = op.apply (.float x.toFloat) := by
  simp only [List.mem_cons, List.not_mem_nil, or_false] at hop
  rcases hop with rfl | rfl | rfl | rfl | rfl | rfl | rfl <;> rfl

/-- Division fails with `cannot divide by 0` exactly when the divisor is a zero, whatever the
dividend: an integer division that fails otherwise overflows. -/
theorem BinaryOp.divide_error_reason_iff (x y : Number) :
    (∃ f, BinaryOp.divide.apply x y = .error f ∧ f.reason = "cannot divide by 0") ↔
      y.isZero = true := by
  by_cases hz : y.isZero = true
  · exact iff_of_true ⟨.divisionByZero, by simp [apply, hz], rfl⟩ hz
  · refine iff_of_false ?_ hz
    rintro ⟨f, hf, hreason⟩
    simp only [apply, hz, Bool.false_eq_true, if_false] at hf
    rw [promoted_error hf] at hreason
    exact absurd hreason (by decide)

/-- Widening is coherent. The only 32-bit integer whose float is zero is `0`. An operation on
two numbers that are not both integers gives what it gives on the two widened to floats, and
`log`, `ln`, `sqrt`, `sin`, `cos`, `tan` and `ctg` give on any number what they give on it
widened. Division fails with `cannot divide by 0`, whatever the dividend, exactly when the
divisor is the integer `0` or a float equal to zero, of either sign. -/
theorem mixed_operations_are_float_operations :
    (∀ n : Int32, (Float.ofInt n.toInt == 0) = true ↔ n = 0) ∧
    (∀ (op : BinaryOp) (x y : Number), ¬(x.kind = .integer ∧ y.kind = .integer) →
      op.apply x y = op.apply (.float x.toFloat) (.float y.toFloat)) ∧
    (∀ op ∈ [UnaryOp.log, .ln, .sqrt, .sin, .cos, .tan, .ctg], ∀ x : Number,
      op.apply x = op.apply (.float x.toFloat)) ∧
    ∀ x y : Number, (∃ f, BinaryOp.divide.apply x y = .error f ∧ f.reason = "cannot divide by 0") ↔
      y = .int 0 ∨ ∃ z : Float, y = .float z ∧ (z == 0) = true := by
  refine ⟨Float.ofInt_toInt_beq_zero, fun op x y hk => BinaryOp.apply_widen op hk,
    fun op hop => UnaryOp.apply_widen hop, fun x y => ?_⟩
  rw [BinaryOp.divide_error_reason_iff, Number.isZero_iff]

-- the negative float zero is a zero divisor too
example : BinaryOp.divide.apply (.int 7) (.float (-0)) = .error .divisionByZero := by rfl

end Calculator
