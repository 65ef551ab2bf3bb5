import Calculator.Expr
import Calculator.Store
import Calculator.Arithmetic

/-! # Evaluating a tree

`Expr.eval` evaluates a tree against a store and returns the result with the store reached.
Subtrees are evaluated left to right and the first failure ends the evaluation:

* a number is itself, and a variable is read from the store as any number;
* an operation evaluates its operands and applies itself (`Calculator.Arithmetic`);
* an assignment evaluates its value, then stores it under its name and returns it.

Stores made before a failure stay: after `(x <- 1) / (x <- 0)`, `x` is `0`. An assignment
whose value fails stores nothing.
-/

namespace Calculator

set_option autoImplicit false

/-- The result of a tree and the store after it. -/
def Expr.eval : Expr → Store → Except Failure Number × Store
  | .lit value, s => (.ok value, s)
  | .var name, s => (s.fetch name none, s)
  | .unary op operand, s =>
    match operand.eval s with
    | (.ok x, s) => (op.apply x, s)
    | (.error f, s) => (.error f, s)
  | .binary op left right, s =>
    match left.eval s with
    | (.ok x, s) =>
      match right.eval s with
      | (.ok y, s) => (op.apply x y, s)
      | (.error f, s) => (.error f, s)
    | (.error f, s) => (.error f, s)
  | .assign name value, s =>
    match value.eval s with
    | (.ok x, s) => (.ok x, s.set name x)
    | (.error f, s) => (.error f, s)

end Calculator
