import Calculator.Arithmetic
import Mathlib.Data.Int.Bitwise
import Mathlib.Data.Nat.Factorial.Basic

/-! # The integer operations are exact or fail

The operations the calculator applies to two 32-bit integers, and to one, described over the
mathematical integers (`IntBinaryOp.exact`, `IntUnaryOp.exact`): `+`, `-`, `*` and negation give
the exact result and fail with `overflow` outside `[-2^31, 2^31 - 1]` (`exactOrOverflow`);
division fails on a zero divisor first, and then overflows only for `-2^31 / -1`; `and`, `or`,
`xor` and `not` are the two's-complement bitwise operations on the integers and never fail;
`factorial` is `n!` up to `12`, and fails above it and below zero.

`IntBinaryOp.apply_exact` and `IntUnaryOp.apply_exact` say the calculator's operations on
integers are these (`ExactResult`: the same failure, or a 32-bit integer whose value is the exact
one), so nothing wraps. What it takes: the bits of a 32-bit integer are those of its value in
two's complement (`Int32.testBit_toInt`), the truncated quotient of two integers in range is in
range except for `-2^31 / -1` (`inInt32_tdiv_iff`), and the factorial loop stops exactly at the
first factorial beyond the range (`productUpTo_one_one`).

The loop is followed step by step too: each step at a factor `i` from `(i - 1)!` goes on with
`i!` exactly when `i ≤ 12` (`productUpTo_step`), so after each factor up to `12` the accumulator
is its factorial, and the loop reads no factor after `13`, whatever its bound
(`productUpTo_exits_at_thirteen`).
-/

namespace Calculator

set_option autoImplicit false

/-! ## The 32-bit range -/

/-- Whether an integer is in the range of a 32-bit two's-complement integer. -/
def InInt32 (z : Int) : Prop :=
  -2147483648 ≤ z ∧ z ≤ 2147483647

instance : DecidablePred InInt32 :=
  fun z => inferInstanceAs (Decidable (-2147483648 ≤ z ∧ z ≤ 2147483647))

theorem Int32.inInt32_toInt (k : Int32) : InInt32 k.toInt :=
  ⟨by have := k.le_toInt; omega, by have := k.toInt_lt; omega⟩

theorem Int32.toInt_ofInt_of_inInt32 {z : Int} (h : InInt32 z) : (Int32.ofInt z).toInt = z :=
  Int32.toInt_ofInt_of_le (by have := h.1; omega) (by have := h.2; omega)

theorem natCast_pow_two_31 : ((Nat.pow 2 31 : Nat) : Int) = 2147483648 := rfl

/-- The exact integer, or `overflow` when it is out of the 32-bit range. -/
def exactOrOverflow (z : Int) : Except Failure Int :=
  if InInt32 z then .ok z else .error .overflow

/-! ## Results that are exact -/

/-- A number is exactly the integer `z` when it is a 32-bit integer whose value is `z`. -/
def Number.IsExactly : Number → Int → Prop
  | .int k, z => k.toInt = z
  | .float _, _ => False

/-- A result of the calculator is exactly a result over the integers: both are the same failure,
or the number is exactly the integer. -/
def ExactResult : Except Failure Number → Except Failure Int → Prop
  | .ok v, .ok z => v.IsExactly z
  | .error f, .error g => f = g
  | _, _ => False

theorem exactResult_int {k : Int32} {z : Int} (h : k.toInt = z) :
    ExactResult (.ok (.int k)) (.ok z) := h

theorem ExactResult.inInt32 {r : Except Failure Number} {z : Int} (h : ExactResult r (.ok z)) :
    InInt32 z := by
  rcases r with _ | ⟨k | x⟩
  · cases h
  · exact (show k.toInt = z from h) ▸ Int32.inInt32_toInt k
  · cases h

theorem checked_exact (z : Int) : ExactResult (checked z) (exactOrOverflow z) := by
  unfold checked fitInt32 exactOrOverflow
  rw [natCast_pow_two_31]
  by_cases h : InInt32 z
  · rw [if_pos (by have := h.1; have := h.2; omega), if_pos h]
    exact Int32.toInt_ofInt_of_inInt32 h
  · rw [if_neg (by intro h'; exact h ⟨by omega, by omega⟩), if_neg h]
    rfl

/-! ## Bits of 32-bit integers -/

theorem Int.eq_of_testBit_eq {a b : Int} (h : ∀ i, a.testBit i = b.testBit i) : a = b := by
  -- far enough up, a natural number has only zero bits and a negative one only ones
  have high : ∀ m n : Nat, Nat.testBit m (m + n) = false := fun m n =>
    Nat.testBit_lt_two_pow (Nat.lt_of_lt_of_le Nat.lt_two_pow_self
      (Nat.pow_le_pow_right (by decide) (by omega)))
  cases a with
  | ofNat m =>
    cases b with
    | ofNat n => exact congrArg _ (Nat.eq_of_testBit_eq h)
    | negSucc n =>
      have hi := h (m + n)
      have hn := high n m
      rw [Nat.add_comm] at hn
      simp [Int.testBit, high, hn] at hi
  | negSucc m =>
    cases b with
    | ofNat n =>
      have hi := h (m + n)
      have hn := high n m
      rw [Nat.add_comm] at hn
      simp [Int.testBit, high, hn] at hi
    | negSucc n =>
      exact congrArg _ (Nat.eq_of_testBit_eq fun i => by simpa [Int.testBit] using h i)

theorem Int32.testBit_toInt (x : Int32) (i : Nat) :
    x.toInt.testBit i = x.toBitVec.getLsbD (min i 31) := by
  have hv := x.toBitVec.isLt
  rw [Int32.toInt, BitVec.toInt_eq_toNat_cond]
  simp only [BitVec.getLsbD]
  split
  · -- a non-negative value has the bits of its pattern, and zeros from bit 31 on
    have hlt : x.toBitVec.toNat < 2 ^ 31 := by omega
    simp only [Int.testBit]
    by_cases hi : i ≤ 31
    · rw [Nat.min_eq_left hi]
    · rw [Nat.min_eq_right (by omega), Nat.testBit_lt_two_pow hlt,
        Nat.testBit_lt_two_pow (Nat.lt_of_lt_of_le hlt (Nat.pow_le_pow_right (by decide) (by omega)))]
  · -- a negative value is the complement of `2^32 - 1 - pattern`, with ones from bit 31 on
    have hneg : (x.toBitVec.toNat : Int) - (2 ^ 32 : Nat) =
        Int.negSucc (2 ^ 32 - (x.toBitVec.toNat + 1)) := by
      rw [Int.negSucc_eq]
      omega
    rw [hneg]
    simp only [Int.testBit, Nat.testBit_two_pow_sub_succ hv]
    by_cases hi : i < 32
    · rw [Nat.min_eq_left (by omega)]
      simp [hi]
    · have h31 : x.toBitVec.toNat.testBit 31 = true := by
        rw [Nat.testBit_eq_decide_div_mod_eq, decide_eq_true_eq]
        omega
      rw [Nat.min_eq_right (by omega)]
      simp [hi, h31]

theorem Int32.toInt_land (a b : Int32) : (a &&& b).toInt = Int.land a.toInt b.toInt := by
  apply Int.eq_of_testBit_eq
  intro i
  rw [Int.testBit_land, testBit_toInt, testBit_toInt, testBit_toInt, Int32.toBitVec_and,
    BitVec.getLsbD_and]

theorem Int32.toInt_lor (a b : Int32) : (a ||| b).toInt = Int.lor a.toInt b.toInt := by
  apply Int.eq_of_testBit_eq
  intro i
  rw [Int.testBit_lor, testBit_toInt, testBit_toInt, testBit_toInt, Int32.toBitVec_or,
    BitVec.getLsbD_or]

theorem Int32.toInt_lxor (a b : Int32) : (a ^^^ b).toInt = Int.xor a.toInt b.toInt := by
  apply Int.eq_of_testBit_eq
  intro i
  rw [Int.testBit_lxor, testBit_toInt, testBit_toInt, testBit_toInt, Int32.toBitVec_xor,
    BitVec.getLsbD_xor]

theorem Int32.toInt_complement (a : Int32) : (~~~a).toInt = -a.toInt - 1 := by
  rw [Int32.toInt_not]
  have ha := Int32.inInt32_toInt a
  unfold InInt32 at ha
  exact Int.bmod_eq_of_le (by omega) (by omega)

/-! ## Truncated division -/

theorem inInt32_tdiv_iff {a b : Int} (ha : InInt32 a) (hb : b ≠ 0) :
    InInt32 (a.tdiv b) ↔ ¬(a = -2147483648 ∧ b = -1) := by
  unfold InInt32 at *
  have hq : (a.tdiv b).natAbs = a.natAbs / b.natAbs := Int.natAbs_tdiv a b
  by_cases hb1 : b.natAbs = 1
  · rcases (show b = 1 ∨ b = -1 by omega) with rfl | rfl
    · rw [Int.tdiv_one]
      omega
    · rw [Int.tdiv_neg, Int.tdiv_one]
      omega
  · -- a divisor of absolute value two or more halves the absolute value at least
    have hdiv : a.natAbs / b.natAbs ≤ a.natAbs / 2 := Nat.div_le_div_left (by omega) (by decide)
    omega

/-! ## The factorial loop -/

theorem natCast_factorial_mul_succ (k : Nat) :
    ((k.factorial : Nat) : Int) * ((k + 1 : Nat) : Int) = (((k + 1).factorial : Nat) : Int) := by
  rw [Nat.factorial_succ, Nat.cast_mul, Int.mul_comm]

/-- From `k!` at factor `k + 1`, the loop reaches `n!` if every factorial on the way is below
`2^31`, which is when `n!` is, and stops with nothing otherwise. The induction is on the factors
left. -/
theorem productUpTo_factorial (n : Nat) : ∀ k, k ≤ n → ((k.factorial : Nat) : Int) < 2147483648 →
    productUpTo n (k.factorial : Int) (k + 1) =
      if ((n.factorial : Nat) : Int) < 2147483648 then some (n.factorial : Int) else none := by
  intro k hk hfit
  induction h : n - k generalizing k with
  | zero =>
    obtain rfl : k = n := by omega
    rw [productUpTo, if_pos (by omega), if_pos hfit]
  | succ d ih =>
    rw [productUpTo, if_neg (by omega)]
    simp only [natCast_factorial_mul_succ, natCast_pow_two_31]
    split
    · exact ih (k + 1) (by omega) ‹_› (by omega)
    · -- the factorial that left the range stays below `n!`
      have hle : (k + 1).factorial ≤ n.factorial := Nat.factorial_le (by omega)
      rw [if_neg (by omega)]

theorem factorial_lt_iff_le_twelve (n : Nat) :
    ((n.factorial : Nat) : Int) < 2147483648 ↔ n ≤ 12 := by
  constructor
  · intro h
    by_contra hn
    have hle : (13 : Nat).factorial ≤ n.factorial := Nat.factorial_le (by omega)
    have h13 : (13 : Nat).factorial = 6227020800 := by decide
    omega
  · intro hn
    have hle : n.factorial ≤ (12 : Nat).factorial := Nat.factorial_le hn
    have h12 : (12 : Nat).factorial = 479001600 := by decide
    omega

theorem productUpTo_one_one (n : Nat) :
    productUpTo n 1 1 = if n ≤ 12 then some (n.factorial : Int) else none := by
  have h := productUpTo_factorial n 0 (Nat.zero_le n) (by decide)
  simp only [Nat.factorial_zero, Nat.cast_one, Nat.zero_add] at h
  rw [h]
  simp only [factorial_lt_iff_le_twelve]

/-- One step of the loop, at a factor `i` up to the last one and from the accumulator
`(i - 1)!`: the product `i!` fits exactly when `i ≤ 12`, and the loop goes on from it;
otherwise the loop stops there with nothing. -/
theorem productUpTo_step {n i : Nat} (hi : 1 ≤ i) (hin : i ≤ n) :
    productUpTo n ((i - 1).factorial : Int) i =
      if i ≤ 12 then productUpTo n (i.factorial : Int) (i + 1) else none := by
  obtain ⟨k, rfl⟩ : ∃ k, i = k + 1 := ⟨i - 1, by omega⟩
  rw [productUpTo, if_neg (by omega), Nat.add_sub_cancel]
  simp only [natCast_factorial_mul_succ, natCast_pow_two_31, factorial_lt_iff_le_twelve]

/-- The accumulator after factor `i`: while `i ≤ 12`, the loop from the start has reached `i!`
with `i + 1` as the next factor. The induction is on the factors taken, one step each. -/
theorem productUpTo_one_one_eq_from {n : Nat} :
    ∀ i, i ≤ n → i ≤ 12 → productUpTo n 1 1 = productUpTo n (i.factorial : Int) (i + 1)
  | 0, _, _ => rfl
  | i + 1, hin, h12 => by
    have hstep := productUpTo_step (n := n) (i := i + 1) (by omega) hin
    rw [Nat.add_sub_cancel, if_pos h12] at hstep
    rw [productUpTo_one_one_eq_from i (by omega) (by omega), hstep]

/-- No factor after `13` is read: the loop up to `n` gives what the loop up to `min n 13`
gives, since it stops at `13` at the latest. -/
theorem productUpTo_min_thirteen (n : Nat) : productUpTo n 1 1 = productUpTo (min n 13) 1 1 := by
  rw [productUpTo_one_one, productUpTo_one_one]
  by_cases h : n ≤ 12
  · rw [Nat.min_eq_left (by omega)]
  · rw [if_neg h, if_neg (by omega)]

/-- The factorial loop of a 32-bit `n ≥ 0` multiplies `1, 2, …, n` into an accumulator from `1`
and stops at the first product that leaves the range. It gives `n!` for `n ≤ 12` and nothing
for `n ≥ 13`; after each factor `i ≤ 12` the accumulator is `i!`; the product at a factor `i`
fits exactly when `i ≤ 12`, so the first one that fails is at `13`; and the loop gives for `n`
what it gives for `min n 13`, so no factor after the first failure is read. -/
theorem productUpTo_exits_at_thirteen (n : Int32) (hn : 0 ≤ n.toInt) :
    productUpTo n.toInt.toNat 1 1 =
        (if n.toInt ≤ 12 then some (n.toInt.toNat.factorial : Int) else none) ∧
      (∀ i, i ≤ n.toInt.toNat → i ≤ 12 →
        productUpTo n.toInt.toNat 1 1 = productUpTo n.toInt.toNat (i.factorial : Int) (i + 1)) ∧
      (∀ i, 1 ≤ i → i ≤ n.toInt.toNat →
        productUpTo n.toInt.toNat ((i - 1).factorial : Int) i =
          if i ≤ 12 then productUpTo n.toInt.toNat (i.factorial : Int) (i + 1) else none) ∧
      productUpTo n.toInt.toNat 1 1 = productUpTo (min n.toInt.toNat 13) 1 1 := by
  refine ⟨?_, fun i hin h12 => productUpTo_one_one_eq_from i hin h12,
    fun i hi hin => productUpTo_step hi hin, productUpTo_min_thirteen _⟩
  rw [productUpTo_one_one]
  -- the bound `12` reads the same on the integer and on its natural number
  have h12 : n.toInt.toNat ≤ 12 ↔ n.toInt ≤ 12 := by omega
  simp only [h12]

/-- The largest 32-bit integer: its loop stops at `13` like every other from `13` on. -/
theorem productUpTo_exits_at_thirteen_max :
    0 ≤ (2147483647 : Int32).toInt ∧
      (productUpTo (2147483647 : Int32).toInt.toNat 1 1 =
          (if (2147483647 : Int32).toInt ≤ 12 then
            some ((2147483647 : Int32).toInt.toNat.factorial : Int) else none) ∧
        (∀ i, i ≤ (2147483647 : Int32).toInt.toNat → i ≤ 12 →
          productUpTo (2147483647 : Int32).toInt.toNat 1 1 =
            productUpTo (2147483647 : Int32).toInt.toNat (i.factorial : Int) (i + 1)) ∧
        (∀ i, 1 ≤ i → i ≤ (2147483647 : Int32).toInt.toNat →
          productUpTo (2147483647 : Int32).toInt.toNat ((i - 1).factorial : Int) i =
            if i ≤ 12 then productUpTo (2147483647 : Int32).toInt.toNat (i.factorial : Int) (i + 1)
            else none) ∧
        productUpTo (2147483647 : Int32).toInt.toNat 1 1 =
          productUpTo (min (2147483647 : Int32).toInt.toNat 13) 1 1) :=
  ⟨by decide, productUpTo_exits_at_thirteen 2147483647 (by decide)⟩

-- the loop at the largest bound takes thirteen steps, so the kernel runs it to its end
example : productUpTo 2147483647 1 1 = none := by decide +kernel

/-! ## The operations over the integers -/

/-- The operations on one number that take an integer to an integer. -/
inductive IntUnaryOp where
  | negate
  | not
  | factorial
  deriving DecidableEq, Repr

/-- The operations on two numbers that take two integers to an integer. -/
inductive IntBinaryOp where
  | add
  | subtract
  | multiply
  | divide
  | and
  | or
  | xor
  deriving DecidableEq, Repr

def IntUnaryOp.toOp : IntUnaryOp → UnaryOp
  | .negate => .negate
  | .not => .not
  | .factorial => .factorial

def IntBinaryOp.toOp : IntBinaryOp → BinaryOp
  | .add => .add
  | .subtract => .subtract
  | .multiply => .multiply
  | .divide => .divide
  | .and => .and
  | .or => .or
  | .xor => .xor

/-- An operation on one integer over the integers: negation is exact or overflows, `not` is the
two's-complement complement, and `factorial` is defined from `0` to `12`. -/
def IntUnaryOp.exact : IntUnaryOp → Int → Except Failure Int
  | .negate, a => exactOrOverflow (-a)
  | .not, a => .ok (-a - 1)
  | .factorial, a =>
    if a < 0 then .error (.negativeInput .factorial)
    else if a ≤ 12 then .ok (a.toNat.factorial : Int)
    else .error .factorialOverflow

/-- An operation on two integers over the integers: `+`, `-` and `*` are exact or overflow;
division truncates toward zero, refuses a zero divisor before anything else and overflows only
for `-2^31 / -1`; `and`, `or` and `xor` are the two's-complement operations. -/
def IntBinaryOp.exact : IntBinaryOp → Int → Int → Except Failure Int
  | .add, a, b => exactOrOverflow (a + b)
  | .subtract, a, b => exactOrOverflow (a - b)
  | .multiply, a, b => exactOrOverflow (a * b)
  | .divide, a, b =>
    if b = 0 then .error .divisionByZero
    else if a = -2147483648 ∧ b = -1 then .error .overflow
    else .ok (a.tdiv b)
  | .and, a, b => .ok (Int.land a b)
  | .or, a, b => .ok (Int.lor a b)
  | .xor, a, b => .ok (Int.xor a b)

theorem isZero_int (b : Int32) : (Number.int b).isZero = true ↔ b.toInt = 0 := by
  simp only [Number.isZero, beq_iff_eq]
  exact ⟨fun h => by rw [h]; rfl, fun h => Int32.toInt_inj.1 (h.trans rfl)⟩

theorem divide_exact (a b : Int32) :
    ExactResult (BinaryOp.divide.apply (.int a) (.int b)) (IntBinaryOp.divide.exact a.toInt b.toInt) := by
  simp only [BinaryOp.apply, IntBinaryOp.exact]
  by_cases hb : b.toInt = 0
  · rw [if_pos ((isZero_int b).2 hb), if_pos hb]
    rfl
  · rw [if_neg (by rw [isZero_int]; exact hb), if_neg hb]
    have h := checked_exact (a.toInt.tdiv b.toInt)
    unfold exactOrOverflow at h
    -- the quotient leaves the range exactly at `-2^31 / -1`
    by_cases hmin : a.toInt = -2147483648 ∧ b.toInt = -1
    · have hq : ¬InInt32 (a.toInt.tdiv b.toInt) :=
        fun hin => (inInt32_tdiv_iff (Int32.inInt32_toInt a) hb).1 hin hmin
      rw [if_neg hq] at h
      rwa [if_pos hmin]
    · have hq : InInt32 (a.toInt.tdiv b.toInt) :=
        (inInt32_tdiv_iff (Int32.inInt32_toInt a) hb).2 hmin
      rw [if_pos hq] at h
      rwa [if_neg hmin]

theorem factorial_exact (n : Int32) :
    ExactResult (Number.int n).factorial (IntUnaryOp.factorial.exact n.toInt) := by
  simp only [Number.factorial, IntUnaryOp.exact]
  by_cases hneg : n.toInt < 0
  · rw [if_pos hneg, if_pos hneg]
    rfl
  · rw [if_neg hneg, if_neg hneg, productUpTo_one_one]
    by_cases h12 : n.toInt ≤ 12
    · rw [if_pos (by omega), if_pos h12]
      apply exactResult_int
      apply Int32.toInt_ofInt_of_inInt32
      have hle : n.toInt.toNat.factorial ≤ (12 : Nat).factorial := Nat.factorial_le (by omega)
      have h12' : (12 : Nat).factorial = 479001600 := by decide
      constructor <;> omega
    · rw [if_neg (by omega), if_neg h12]
      rfl

theorem IntUnaryOp.apply_exact (op : IntUnaryOp) (a : Int32) :
    ExactResult (op.toOp.apply (.int a)) (op.exact a.toInt) := by
  cases op with
  | negate => exact checked_exact (-a.toInt)
  | not => exact exactResult_int (Int32.toInt_complement a)
  | factorial => exact factorial_exact a

theorem IntBinaryOp.apply_exact (op : IntBinaryOp) (a b : Int32) :
    ExactResult (op.toOp.apply (.int a) (.int b)) (op.exact a.toInt b.toInt) := by
  cases op with
  | add => exact checked_exact (a.toInt + b.toInt)
  | subtract => exact checked_exact (a.toInt - b.toInt)
  | multiply => exact checked_exact (a.toInt * b.toInt)
  | divide => exact divide_exact a b
  | and => exact exactResult_int (Int32.toInt_land a b)
  | or => exact exactResult_int (Int32.toInt_lor a b)
  | xor => exact exactResult_int (Int32.toInt_lxor a b)

end Calculator
