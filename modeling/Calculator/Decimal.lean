/-! # Decimals and their positional text

A `Decimal` is the number `digits · 10 ^ exponent`. `Decimal.plain` writes it in positional
notation, never with an exponent:

* a decimal with a non-negative exponent is its digits followed by that many zeros
  (`1 · 10 ^ 21` is `1000000000000000000000`);
* otherwise the point falls inside the digits (`15 · 10 ^ -1` is `1.5`), or before them, after
  `0.` and as many zeros as are needed (`5 · 10 ^ -324` is `0.` and 323 zeros and `5`).

No `.0` is written after an integral decimal.
-/

namespace Calculator

set_option autoImplicit false

/-- The number `digits · 10 ^ exponent`. -/
structure Decimal where
  digits : Nat
  exponent : Int
  deriving DecidableEq, Repr

namespace Decimal

def zeros (n : Nat) : String :=
  String.ofList (List.replicate n '0')

/-- The positional text of a decimal: its digits, with the point placed by the exponent. -/
def plain (d : Decimal) : String :=
  let ds := Nat.toDigits 10 d.digits
  let before : Int := ds.length + d.exponent
  if 0 ≤ d.exponent then
    String.ofList ds ++ zeros d.exponent.toNat
  else if 0 < before then
    String.ofList (ds.take before.toNat) ++ "." ++ String.ofList (ds.drop before.toNat)
  else
    "0." ++ zeros (-before).toNat ++ String.ofList ds

example : (Decimal.mk 15 (-1)).plain = "1.5" := by decide
example : (Decimal.mk 1 3).plain = "1000" := by decide
example : (Decimal.mk 25 (-4)).plain = "0.0025" := by decide

end Decimal

end Calculator
