import Calculator.Decimal.Float

/-! # Numbers

A number of the calculator is a 32-bit two's-complement integer or a binary64 float, and keeps
its kind: integers stay integers while every operand is one (`Calculator.Arithmetic`).

* `Number.toFloat` widens an integer exactly.
* `Number.isZero` holds of the integer `0` and of both float zeros.
* `Number.text` is the decimal text of an integer, or `floatText` of a float.
-/

namespace Calculator

set_option autoImplicit false

inductive Kind where
  | integer
  | float
  deriving DecidableEq, Repr

def Kind.name : Kind → String
  | .integer => "integer"
  | .float => "float"

/-- A 32-bit integer or a binary64 float. -/
inductive Number where
  | int (n : Int32)
  | float (x : Float)

namespace Number

def kind : Number → Kind
  | .int _ => .integer
  | .float _ => .float

/-- The number as a float; every 32-bit integer is a float exactly. -/
def toFloat : Number → Float
  | .int n => Float.ofInt n.toInt
  | .float x => x

/-- Whether the number equals zero: the integer `0`, or a float zero of either sign. -/
def isZero : Number → Bool
  | .int n => n == 0
  | .float x => x == 0

/-- The text of a number. -/
def text : Number → String
  | .int n => toString n.toInt
  | .float x => floatText x

@[simp] theorem kind_int (n : Int32) : (Number.int n).kind = .integer := rfl
@[simp] theorem kind_float (x : Float) : (Number.float x).kind = .float := rfl

end Number

end Calculator
