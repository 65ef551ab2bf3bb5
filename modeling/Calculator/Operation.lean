/-! # Operations

The operations a tree can apply: eight on two numbers and ten on one. Each has the symbol that
the tree's text shows and that the line spells it with (`Calculator.Arithmetic` gives their
meaning).
-/

namespace Calculator

set_option autoImplicit false

/-- Operations on two numbers. -/
inductive BinaryOp where
  | add
  | subtract
  | multiply
  | divide
  | power
  | and
  | or
  | xor
  deriving DecidableEq, Repr

/-- Operations on one number. -/
inductive UnaryOp where
  | negate
  | not
  | factorial
  | log
  | ln
  | sqrt
  | sin
  | cos
  | tan
  | ctg
  deriving DecidableEq, Repr

def BinaryOp.symbol : BinaryOp → String
  | .add => "+"
  | .subtract => "-"
  | .multiply => "*"
  | .divide => "/"
  | .power => "^"
  | .and => "and"
  | .or => "or"
  | .xor => "xor"

def UnaryOp.symbol : UnaryOp → String
  | .negate => "-"
  | .not => "not"
  | .factorial => "factorial"
  | .log => "log"
  | .ln => "ln"
  | .sqrt => "sqrt"
  | .sin => "sin"
  | .cos => "cos"
  | .tan => "tan"
  | .ctg => "ctg"

end Calculator
