/-! # Reading decimal text as a float

`Decimal.toFloat mantissa exponent` is the float nearest to `mantissa · 10 ^ exponent`, a tie
going to the even significand, as `Float.ofScientific` rounds. Magnitudes far outside the float
range are settled first, so that a huge exponent costs nothing: at least `10 ^ 309` is infinite
and below `10 ^ -400` is zero.

`Decimal.readFloat?` reads the usual text of a float: an optional sign, then either digits with
an optional point and optional exponent (`12`, `1.`, `.5`, `2.5e-3`, `1E+308`; at least one
digit before the exponent), or one of the words `inf`, `infinity` and `nan` in any case.
-/

namespace Calculator.Decimal

set_option autoImplicit false

/-! ## Digits -/

def isDigit (c : Char) : Bool :=
  '0' ≤ c && c ≤ '9'

/-- The value of a run of digits in base `base`, most significant first; `digitValue` gives each
digit's value. -/
def digitsValue (base : Nat) (digitValue : Char → Nat) (ds : List Char) : Nat :=
  ds.foldl (fun acc c => acc * base + digitValue c) 0

def decimalDigitValue (c : Char) : Nat :=
  c.toNat - 48

def decimalValue (ds : List Char) : Nat :=
  digitsValue 10 decimalDigitValue ds

/-! ## Scaling by a power of ten -/

/-- The float nearest to `mantissa · 10 ^ exponent`. -/
def toFloat (mantissa : Nat) (exponent : Int) : Float :=
  if mantissa = 0 then 0
  else
    let size : Int := (Nat.toDigits 10 mantissa).length
    if 310 ≤ size + exponent then 1 / 0
    else if size + exponent ≤ -400 then 0
    else if exponent < 0 then Float.ofScientific mantissa true (-exponent).toNat
    else Float.ofScientific mantissa false exponent.toNat

/-! ## Text -/

def lowerAscii (cs : List Char) : List Char :=
  cs.map Char.toLower

/-- An exponent after `e` or `E`: an optional sign, then at least one digit. -/
def readExponent? (cs : List Char) : Option Int :=
  let (negative, ds) := match cs with
    | '-' :: r => (true, r)
    | '+' :: r => (false, r)
    | r => (false, r)
  if !ds.isEmpty && ds.all isDigit then
    let n : Int := decimalValue ds
    some (if negative then -n else n)
  else none

/-- The magnitude written by unsigned text: digits, an optional point and fraction, an optional
exponent; or a word for infinity or NaN. -/
def readMagnitude? (cs : List Char) : Option Float :=
  let word := lowerAscii cs
  if word = "inf".toList || word = "infinity".toList then some (1 / 0)
  else if word = "nan".toList then some (0 / 0)
  else
    let (whole, r) := cs.span isDigit
    let (fraction, r) := match r with
      | '.' :: r => r.span isDigit
      | r => ([], r)
    let exponent? : Option Int := match r with
      | [] => some 0
      | c :: r => if c = 'e' || c = 'E' then readExponent? r else none
    if whole.isEmpty && fraction.isEmpty then none
    else exponent?.map fun e =>
      toFloat (decimalValue (whole ++ fraction)) (e - fraction.length)

/-- The float written by a text, if the text is one. -/
def readFloat? (s : String) : Option Float :=
  match s.toList with
  | '-' :: r => (readMagnitude? r).map fun x => -x
  | '+' :: r => readMagnitude? r
  | r => readMagnitude? r

end Calculator.Decimal
