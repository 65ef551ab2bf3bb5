import Calculator.Decimal.Shortest

/-! # The text of a binary float

`FloatParts.ofFloat` reads the 64 bits of a float as what they stand for: NaN, an infinity, a
zero or a finite non-zero `± m · 2 ^ q`, each with its sign. `floatText` writes a float as the
calculator shows numbers:

* a finite non-zero float is its shortest decimal (`Decimal.shortest`) in positional notation
  (`Decimal.plain`), after `-` when negative: `0.1`, `1.5`, `3`, `1000000000000000000000`;
* a zero is `0` or `-0`, the infinities are `inf` and `-inf`, and every NaN is `NaN`, whatever
  its sign bit.
-/

namespace Calculator

set_option autoImplicit false

/-- What the 64 bits of a binary float stand for. A finite value is `± m · 2 ^ q` with
`0 < m < 2 ^ 53`. -/
inductive FloatParts where
  | nan
  | infinite (negative : Bool)
  | zero (negative : Bool)
  | finite (negative : Bool) (m : Nat) (q : Int)
  deriving DecidableEq, Repr

namespace FloatParts

/-- Sign bit, eleven exponent bits and fifty-two fraction bits. A biased exponent of zero marks
a zero or a subnormal `f · 2 ^ -1074`; all ones mark an infinity or a NaN; any other `e` gives
`(2 ^ 52 + f) · 2 ^ (e - 1075)`. -/
def ofFloat (x : Float) : FloatParts :=
  let b : Nat := x.toBits.toNat
  let negative := decide (Nat.pow 2 63 ≤ b)
  let e : Nat := b / Nat.pow 2 52 % Nat.pow 2 11
  let f : Nat := b % Nat.pow 2 52
  if e = 2047 then
    if f = 0 then .infinite negative else .nan
  else if e = 0 then
    if f = 0 then .zero negative else .finite negative f (-1074)
  else
    .finite negative (Nat.pow 2 52 + f) ((e : Int) - 1075)

def sign (negative : Bool) : String :=
  if negative then "-" else ""

/-- The text of the number that the parts stand for. -/
def text : FloatParts → String
  | .nan => "NaN"
  | .infinite negative => sign negative ++ "inf"
  | .zero negative => sign negative ++ "0"
  | .finite negative m q => sign negative ++ (Decimal.shortest m q).plain

end FloatParts

/-- The text of a float: shortest round-trip digits, positional, no trailing `.0`. -/
def floatText (x : Float) : String :=
  (FloatParts.ofFloat x).text

end Calculator
