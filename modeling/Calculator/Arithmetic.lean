import Calculator.Failure

/-! # The meaning of the operations

Integers stay integers while every operand is one; a float operand makes the operation a float
operation on both operands widened to floats.

* `+`, `-`, `*` and negation of integers are exact, and fail with `overflow` when the exact
  result leaves the 32-bit range.
* Division fails first of all when the divisor is zero (`Number.isZero`), whatever the kinds.
  Integer division truncates toward zero; its only overflow is the least integer over `-1`.
* An integer power is taken in floats and brought back to 32 bits by truncation, saturating at
  the ends of the range (a NaN gives `0`): it never fails.
* `and`, `or`, `xor` and `not` are the bitwise operations on 32 bits and need integers.
* A factorial needs a non-negative integer and fails beyond `12!`; the product stops at the
  first factor that leaves the range.
* `log` (base ten), `ln` and `sqrt` refuse a negative input, so neither `-0` nor a NaN; with
  `sin`, `cos`, `tan` and `ctg` they always give a float. The cotangent is undefined exactly
  where the tangent is zero.
-/

namespace Calculator

set_option autoImplicit false

/-! ## Checked integers -/

/-- The 32-bit integer equal to `z`, if `z` is in range. -/
def fitInt32 (z : Int) : Option Int32 :=
  if -(Nat.pow 2 31 : Int) ≤ z ∧ z < (Nat.pow 2 31 : Int) then some (Int32.ofInt z) else none

/-- The integer `z` as a number, or `overflow` when it leaves the 32-bit range. -/
def checked (z : Int) : Except Failure Number :=
  match fitInt32 z with
  | some n => .ok (.int n)
  | none => .error .overflow

/-- An operation that is `onInts` on the exact values of two integers, checked, and `onFloats`
on the widened operands otherwise. -/
def promoted (onInts : Int → Int → Int) (onFloats : Float → Float → Float) :
    Number → Number → Except Failure Number
  | .int a, .int b => checked (onInts a.toInt b.toInt)
  | x, y => .ok (.float (onFloats x.toFloat y.toFloat))

/-- A bitwise operation, defined on two integers only. -/
def bitwise (op : BinaryOp) (f : Int32 → Int32 → Int32) : Number → Number → Except Failure Number
  | .int a, .int b => .ok (.int (f a b))
  | _, _ => .error (.bitwiseOfFloat op)

/-- Integer power `b ^ e`: the float power of the widened operands, truncated toward zero into
the 32-bit range, with a NaN giving `0`. -/
def intPower (b e : Int32) : Int32 :=
  ((Float.ofInt b.toInt).pow (Float.ofInt e.toInt)).toInt32

/-- The product `acc · i · (i + 1) · … · n`, or `none` at the first partial product that is no
longer below `2 ^ 31`. -/
def productUpTo (n : Nat) (acc : Int) (i : Nat) : Option Int :=
  if n < i then some acc
  else
    let p := acc * i
    if p < (Nat.pow 2 31 : Int) then productUpTo n p (i + 1) else none
termination_by n + 1 - i

/-! ## Operations on two numbers -/

def BinaryOp.apply : BinaryOp → Number → Number → Except Failure Number
  | .add, x, y => promoted (· + ·) (· + ·) x y
  | .subtract, x, y => promoted (· - ·) (· - ·) x y
  | .multiply, x, y => promoted (· * ·) (· * ·) x y
  | .divide, x, y => if y.isZero then .error .divisionByZero else promoted Int.tdiv (· / ·) x y
  | .power, .int b, .int e => .ok (.int (intPower b e))
  | .power, x, y => .ok (.float (x.toFloat.pow y.toFloat))
  | .and, x, y => bitwise .and (· &&& ·) x y
  | .or, x, y => bitwise .or (· ||| ·) x y
  | .xor, x, y => bitwise .xor (· ^^^ ·) x y

/-! ## Operations on one number -/

/-- A float function defined for non-negative inputs only. -/
def nonNegative (op : UnaryOp) (f : Float → Float) (x : Number) : Except Failure Number :=
  if x.toFloat < 0 then .error (.negativeInput op) else .ok (.float (f x.toFloat))

def Number.factorial : Number → Except Failure Number
  | .int n =>
    if n.toInt < 0 then .error (.negativeInput .factorial)
    else match productUpTo n.toInt.toNat 1 1 with
      | some p => .ok (.int (Int32.ofInt p))
      | none => .error .factorialOverflow
  | .float _ => .error .factorialOfFloat

/-- The cotangent: one over the tangent, undefined where the tangent is zero. -/
def Number.cotangent (x : Number) : Except Failure Number :=
  let t := x.toFloat.tan
  if t == 0 then .error .cotangentUndefined else .ok (.float (1 / t))

def UnaryOp.apply : UnaryOp → Number → Except Failure Number
  | .negate, .int a => checked (-a.toInt)
  | .negate, .float x => .ok (.float (-x))
  | .not, .int a => .ok (.int (~~~a))
  | .not, .float _ => .error .complementOfFloat
  | .factorial, x => x.factorial
  | .log, x => nonNegative .log Float.log10 x
  | .ln, x => nonNegative .ln Float.log x
  | .sqrt, x => nonNegative .sqrt Float.sqrt x
  | .sin, x => .ok (.float x.toFloat.sin)
  | .cos, x => .ok (.float x.toFloat.cos)
  | .tan, x => .ok (.float x.toFloat.tan)
  | .ctg, x => x.cotangent

end Calculator
