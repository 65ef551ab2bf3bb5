import Calculator.Number
import Calculator.Operation

/-! # Why an evaluation fails

Each way an evaluation can fail is a constructor of `Failure`; `Failure.reason` is its
message, and `Failure.causes` the messages of the failures beneath it, outermost first. Only a
variable read at the wrong kind has one: the failure names the variable, its kind and the kind
that was asked for.
-/

namespace Calculator

set_option autoImplicit false

/-- The ways an evaluation fails. -/
inductive Failure where
  /-- An integer result outside the 32-bit range. -/
  | overflow
  /-- A division whose divisor is zero. -/
  | divisionByZero
  /-- A bitwise operation with a float operand. -/
  | bitwiseOfFloat (op : BinaryOp)
  /-- The bitwise complement of a float. -/
  | complementOfFloat
  /-- The factorial of a float. -/
  | factorialOfFloat
  /-- A negative input to an operation defined for non-negative numbers only. -/
  | negativeInput (op : UnaryOp)
  /-- A factorial beyond the 32-bit range. -/
  | factorialOverflow
  /-- The cotangent where the tangent is zero. -/
  | cotangentUndefined
  /-- A variable with no value. -/
  | unboundVariable
  /-- A variable read as one kind while it holds the other. -/
  | kindMismatch (name : String) (held expected : Kind)
  deriving DecidableEq, Repr

namespace Failure

def reason : Failure → String
  | .overflow => "overflow"
  | .divisionByZero => "cannot divide by 0"
  | .bitwiseOfFloat op => "one of the inputs to the operator '" ++ op.symbol ++ "' is not an integer"
  | .complementOfFloat => "the input to the operator 'not' is not an integer"
  | .factorialOfFloat => "the input to factorial is not an integer"
  | .negativeInput op => "the input to " ++ op.symbol ++ " is negative"
  | .factorialOverflow => "factorial overflowed"
  | .cotangentUndefined => "not defined"
  | .unboundVariable => "variable does not exist"
  | .kindMismatch _ _ _ => "variable is not of expected type"

/-- The messages of the failures beneath this one, outermost first. -/
def causes : Failure → List String
  | .kindMismatch name held expected =>
    ["`" ++ name ++ "` holds a " ++ held.name ++ ", expected " ++ expected.name]
  | _ => []

/-- The messages of this failure and of each failure beneath it, outermost first. -/
def chain (f : Failure) : List String :=
  f.reason :: f.causes

/-- The message of the innermost failure: the last of the chain, this failure's own when nothing
is beneath it. -/
def rootCause (f : Failure) : String :=
  f.chain.getLast (List.cons_ne_nil _ _)

@[simp] theorem chain_length (f : Failure) : f.chain.length = f.causes.length + 1 := rfl

end Failure

end Calculator
