import Calculator.Number
import Calculator.Text.Quoted

/-! # Tokens

A line is cut into tokens: parentheses, runs of blanks, operators, names, integers written in
one of four radixes, and floats. A token keeps its kind, its characters as written (its
literal) and the byte offset where it starts; the end of the line is a token too, with an empty
literal.

`Token.display` writes a token on one line: a label, the literal and the value, `null` when the
kind has none. Blank runs are quoted by `Text.quote`, so tab, line feed and carriage return are
`\t`, `\n` and `\r`, and every other blank but the space is written by its code point. A float
shows `.0` after an integral value, infinity included.
-/

namespace Calculator

set_option autoImplicit false

/-! ## Operators -/

/-- The operators a line can hold. -/
inductive Operator where
  | assign
  | plus
  | minus
  | star
  | slash
  | caret
  | and
  | or
  | not
  | xor
  | log
  | ln
  | sqrt
  | sin
  | cos
  | tan
  | ctg
  | factorial
  deriving DecidableEq, Repr

namespace Operator

def chars : Operator → List Char
  | .assign => ['<', '-']
  | .plus => ['+']
  | .minus => ['-']
  | .star => ['*']
  | .slash => ['/']
  | .caret => ['^']
  | .and => ['a', 'n', 'd']
  | .or => ['o', 'r']
  | .not => ['n', 'o', 't']
  | .xor => ['x', 'o', 'r']
  | .log => ['l', 'o', 'g']
  | .ln => ['l', 'n']
  | .sqrt => ['s', 'q', 'r', 't']
  | .sin => ['s', 'i', 'n']
  | .cos => ['c', 'o', 's']
  | .tan => ['t', 'a', 'n']
  | .ctg => ['c', 't', 'g']
  | .factorial => ['f', 'a', 'c', 't', 'o', 'r', 'i', 'a', 'l']

def spelling (op : Operator) : String :=
  String.ofList op.chars

theorem chars_ne_nil (op : Operator) : op.chars ≠ [] := by
  cases op <;> simp [chars]

/-- Every operator, in the order in which the lexer tries their spellings: the first that
begins the rest of the line is taken, so keywords win over names that start with them. -/
def all : List Operator :=
  [.assign, .plus, .minus, .star, .slash, .caret, .and, .or, .not, .xor, .log, .ln, .sqrt, .sin,
    .cos, .tan, .ctg, .factorial]

end Operator

/-! ## Tokens -/

/-- The radix an integer literal is written in. -/
inductive Radix where
  | binary
  | octal
  | decimal
  | hex
  deriving DecidableEq, Repr

def Radix.base : Radix → Nat
  | .binary => 2
  | .octal => 8
  | .decimal => 10
  | .hex => 16

def Radix.label : Radix → String
  | .binary => "BINARY"
  | .octal => "OCTAL"
  | .decimal => "DECIMAL"
  | .hex => "HEX"

/-- What a token is, with the value of a number. -/
inductive TokenKind where
  | endOfInput
  | openParen
  | closeParen
  | blank
  | operator (op : Operator)
  | ident
  | integer (value : Int32) (radix : Radix)
  | float (value : Float)

/-- A token: its kind, its literal and the byte offset where it starts. -/
structure Token where
  kind : TokenKind
  literal : String
  offset : Nat

/-! ## Display -/

/-- The text of a float token's value: `.0` follows an integral value. -/
def floatTokenText (x : Float) : String :=
  if x == x.floor then floatText x ++ ".0" else floatText x

/-- The one-line text of a token. -/
def Token.display (t : Token) : String :=
  match t.kind with
  | .endOfInput => "EOF  null"
  | .openParen => "LEFT_PAREN " ++ t.literal ++ " null"
  | .closeParen => "RIGHT_PAREN " ++ t.literal ++ " null"
  | .blank => "WHITESPACE " ++ Text.quote t.literal ++ " null"
  | .operator _ => "OPERATOR " ++ t.literal ++ " null"
  | .ident => "IDENTIFIER " ++ t.literal ++ " null"
  | .integer value radix => radix.label ++ "_INTEGER " ++ t.literal ++ " " ++ toString value.toInt
  | .float value => "FLOAT " ++ t.literal ++ " " ++ floatTokenText value

end Calculator
