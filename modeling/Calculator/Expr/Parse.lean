import Calculator.Expr
import Calculator.Token.Scan

/-! # Reading a line as a tree

A line is first cut into tokens (`Token.scanLine`); a lexical error ends the reading. Blank
tokens are then dropped, and the rest is read by this grammar, where every binary level
nests to the right (`8 - 4 - 2` is `8 - (4 - 2)`):

```
expression     := ident "<-" additive | additive
additive       := multiplicative (("+" | "-" | "and" | "xor") additive)?
multiplicative := power (("*" | "/" | "or") multiplicative)?
power          := unary ("^" power)?
unary          := ("-" | "not" | "factorial" | "log" | "ln" | "sqrt"
                   | "sin" | "cos" | "tan" | "ctg")? primary
primary        := "(" expression ")" | ident | integer | float
```

A unary operator applies to a primary only, so `- - 1` is refused. The whole line must be one
expression. Each refusal names the token where the reading stopped (the end of the line has
offset the line's length and length zero):

* `unexpected end of input`: a primary was due at the end;
* `not a literal expression`: a primary was due at `)` or at an operator that cannot begin one;
* `unexpected operator '<op>'`: an operator that is neither unary nor expected stands where an
  operand begins;
* `expected ')'`: an opened parenthesis is not closed after its expression;
* `input left`: a whole expression is followed by more tokens.

The reading is one well-founded recursion on the pair (tokens left, grammar level): a rule
either moves down a level on the same tokens or reads a token first. Each result carries the
proof that it took at least one token (`Parsed`).
-/

namespace Calculator

set_option autoImplicit false

/-! ## Errors -/

/-- A stretch of a line, in bytes. -/
structure Span where
  offset : Nat
  length : Nat
  deriving DecidableEq, Repr

/-- What stopped the reading of a well-formed token sequence. -/
inductive Problem where
  | unexpectedEnd
  | notLiteral
  | unexpectedOperator (op : Operator)
  | expectedClose
  | inputLeft
  deriving DecidableEq, Repr

def Problem.reason : Problem → String
  | .unexpectedEnd => "unexpected end of input"
  | .notLiteral => "not a literal expression"
  | .unexpectedOperator op => "unexpected operator '" ++ op.spelling ++ "'"
  | .expectedClose => "expected ')'"
  | .inputLeft => "input left"

/-- Why a line is not an expression: it cannot be cut into tokens, or its tokens do not follow
the grammar at a token. -/
inductive ParseError where
  | lexical (error : LexError)
  | grammar (problem : Problem) (span : Span)
  deriving DecidableEq, Repr

namespace ParseError

def reason : ParseError → String
  | .lexical error => error.message
  | .grammar problem _ => problem.reason

/-- The stretch a parse error points at; a lexical error points at its position only. -/
def span : ParseError → Span
  | .lexical error => ⟨error.position, 0⟩
  | .grammar _ span => span

end ParseError

/-! ## The grammar's pieces -/

def Token.span (t : Token) : Span :=
  ⟨t.offset, t.literal.utf8ByteSize⟩

def TokenKind.isBlank : TokenKind → Bool
  | .blank => true
  | _ => false

/-- The operation an operator token stands for between two additive operands. -/
def additiveOp? : TokenKind → Option BinaryOp
  | .operator .plus => some .add
  | .operator .minus => some .subtract
  | .operator .and => some .and
  | .operator .xor => some .xor
  | _ => none

/-- The operation an operator token stands for between two multiplicative operands. -/
def multiplicativeOp? : TokenKind → Option BinaryOp
  | .operator .star => some .multiply
  | .operator .slash => some .divide
  | .operator .or => some .or
  | _ => none

/-- The operation an operator stands for before a primary. -/
def unaryOp? : Operator → Option UnaryOp
  | .minus => some .negate
  | .not => some .not
  | .factorial => some .factorial
  | .log => some .log
  | .ln => some .ln
  | .sqrt => some .sqrt
  | .sin => some .sin
  | .cos => some .cos
  | .tan => some .tan
  | .ctg => some .ctg
  | _ => none

def TokenKind.isCaret : TokenKind → Bool
  | .operator .caret => true
  | _ => false

def TokenKind.isClose : TokenKind → Bool
  | .closeParen => true
  | _ => false

/-- A tree read from the front of `toks`, with the tokens after it, which are fewer. -/
structure Parsed (toks : List Token) where
  tree : Expr
  rest : List Token
  shorter : rest.length < toks.length

/-! ## The rules

Each rule takes `stop`, the byte length of the line, for errors at its end. -/

namespace Parsed

mutual

/-- The rule `expression := ident "<-" additive | additive`. -/
def expression (stop : Nat) (toks : List Token) : Except ParseError (Parsed toks) :=
  match toks with
  | ⟨.ident, name, _⟩ :: ⟨.operator .assign, _, _⟩ :: r => do
    let value ← additive stop r
    pure ⟨.assign name value.tree, value.rest, by have := value.shorter; simp; omega⟩
  | other => additive stop other
termination_by (toks.length, 5)

/-- The rule `additive := multiplicative (("+" | "-" | "and" | "xor") additive)?`. -/
def additive (stop : Nat) (toks : List Token) : Except ParseError (Parsed toks) := do
  let left ← multiplicative stop toks
  match h : left.rest with
  | t :: r =>
    match additiveOp? t.kind with
    | some op =>
      have hl := left.shorter
      let right ← additive stop r
      pure ⟨.binary op left.tree right.tree, right.rest, by
        have hr := right.shorter; simp only [h, List.length_cons] at hl; omega⟩
    | none => pure left
  | [] => pure left
termination_by (toks.length, 4)
decreasing_by
  · exact Prod.Lex.right _ (by decide)
  · exact Prod.Lex.left _ _ (by simp only [h, List.length_cons] at hl; omega)

/-- The rule `multiplicative := power (("*" | "/" | "or") multiplicative)?`. -/
def multiplicative (stop : Nat) (toks : List Token) : Except ParseError (Parsed toks) := do
  let left ← power stop toks
  match h : left.rest with
  | t :: r =>
    match multiplicativeOp? t.kind with
    | some op =>
      have hl := left.shorter
      let right ← multiplicative stop r
      pure ⟨.binary op left.tree right.tree, right.rest, by
        have hr := right.shorter; simp only [h, List.length_cons] at hl; omega⟩
    | none => pure left
  | [] => pure left
termination_by (toks.length, 3)
decreasing_by
  · exact Prod.Lex.right _ (by decide)
  · exact Prod.Lex.left _ _ (by simp only [h, List.length_cons] at hl; omega)

/-- The rule `power := unary ("^" power)?`. -/
def power (stop : Nat) (toks : List Token) : Except ParseError (Parsed toks) := do
  let base ← unary stop toks
  match h : base.rest with
  | t :: r =>
    if t.kind.isCaret then
      have hl := base.shorter
      let exponent ← power stop r
      pure ⟨.binary .power base.tree exponent.tree, exponent.rest, by
        have hr := exponent.shorter; simp only [h, List.length_cons] at hl; omega⟩
    else pure base
  | [] => pure base
termination_by (toks.length, 2)
decreasing_by
  · exact Prod.Lex.right _ (by decide)
  · exact Prod.Lex.left _ _ (by simp only [h, List.length_cons] at hl; omega)

/-- The rule `unary := unary-operator? primary`. -/
def unary (stop : Nat) (toks : List Token) : Except ParseError (Parsed toks) :=
  match toks with
  | t :: r =>
    match t.kind with
    | .operator o =>
      match unaryOp? o with
      | some op => do
        let operand ← primary stop r
        pure ⟨.unary op operand.tree, operand.rest, by have := operand.shorter; simp; omega⟩
      | none => .error (.grammar (.unexpectedOperator o) t.span)
    | _ => primary stop (t :: r)
  | [] => primary stop []
termination_by (toks.length, 1)

/-- The rule `primary := "(" expression ")" | ident | integer | float`. -/
def primary (stop : Nat) (toks : List Token) : Except ParseError (Parsed toks) :=
  match toks with
  | [] => .error (.grammar .unexpectedEnd ⟨stop, 0⟩)
  | t :: r =>
    match t.kind with
    | .openParen => do
      let inner ← expression stop r
      match h : inner.rest with
      | c :: r' =>
        if c.kind.isClose then
          pure ⟨inner.tree, r', by
            have hi := inner.shorter; simp only [h, List.length_cons] at hi ⊢; omega⟩
        else .error (.grammar .expectedClose c.span)
      | [] => .error (.grammar .expectedClose ⟨stop, 0⟩)
    | .ident => pure ⟨.var t.literal, r, by simp⟩
    | .integer value _ => pure ⟨.lit (.int value), r, by simp⟩
    | .float value => pure ⟨.lit (.float value), r, by simp⟩
    | .endOfInput => .error (.grammar .unexpectedEnd t.span)
    | _ => .error (.grammar .notLiteral t.span)
termination_by (toks.length, 0)

end

end Parsed

/-- The tree of a line. -/
def Expr.parse (line : String) : Except ParseError Expr :=
  match Token.scanLine line with
  | (_, some error) => .error (.lexical error)
  | (tokens, none) =>
    let toks := tokens.filter fun t => !t.kind.isBlank
    match Parsed.expression line.utf8ByteSize toks with
    | .error e => .error e
    | .ok p =>
      match p.rest with
      | [] => .ok p.tree
      | t :: _ => .error (.grammar .inputLeft t.span)

end Calculator
