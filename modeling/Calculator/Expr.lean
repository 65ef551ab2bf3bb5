import Calculator.Number
import Calculator.Operation

/-! # Expression trees

A line is read as a tree: a number, a variable, an operation on one or two subtrees, or an
assignment of a subtree's value to a name. Parentheses leave no node.

`Expr.text` writes a tree in prefix form: a number by its text (`Number.text`, so the float
`3.0` is `3`), a variable by its name, and every other node in parentheses, its symbol first:
`(- 8 (- 4 2))`, `(sqrt x)`, `(<- y (* 2 x))`.
-/

namespace Calculator

set_option autoImplicit false

inductive Expr where
  | lit (value : Number)
  | var (name : String)
  | unary (op : UnaryOp) (operand : Expr)
  | binary (op : BinaryOp) (left right : Expr)
  | assign (name : String) (value : Expr)

namespace Expr

/-- The prefix text of a tree. -/
def text : Expr → String
  | .lit value => value.text
  | .var name => name
  | .unary op operand => "(" ++ op.symbol ++ " " ++ operand.text ++ ")"
  | .binary op left right => "(" ++ op.symbol ++ " " ++ left.text ++ " " ++ right.text ++ ")"
  | .assign name value => "(<- " ++ name ++ " " ++ value.text ++ ")"

/-- The names a tree reads or assigns. -/
def names : Expr → List String
  | .lit _ => []
  | .var name => [name]
  | .unary _ operand => operand.names
  | .binary _ left right => left.names ++ right.names
  | .assign name value => name :: value.names

end Expr

end Calculator
