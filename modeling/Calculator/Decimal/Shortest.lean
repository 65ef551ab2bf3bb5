import Calculator.Decimal

/-! # The shortest decimal of a binary float

A positive binary64 float is `m · 2 ^ q` with `0 < m < 2 ^ 53`. The reals that round to it form
an interval that reaches halfway to each neighbouring float, with both ends included exactly
when `m` is even (a tie then rounds to it). `Decimal.shortest m q` is the decimal with the
fewest significant digits inside that interval and, of those, the one nearest to the float; an
exact tie between two such decimals goes to the upper one.

The search runs over the grids `10 ^ j` from a coarse one down to finer ones. On each grid only
the two grid points that enclose the float are tried: if any point of a grid lies in the
interval, so does one of those two, and the nearest point of the grid to the float is one of
them. The first grid with a point in the interval gives the fewest digits. All comparisons are
exact, on natural numbers scaled by a common power of two and of ten.
-/

namespace Calculator.Decimal

set_option autoImplicit false

/-! ## The rounding interval

Quantities are in units of `2 ^ (q - 2)`, where the float `m · 2 ^ q` is `4m`. -/

/-- The lower end of the reals that round to `m · 2 ^ q`, halfway to the float below. The float
below is only a quarter step away when `m` is the least normal significand `2 ^ 52` and the
exponent is above the least one, because floats below a power of two are twice as dense. -/
def lowerEnd (m : Nat) (q : Int) : Nat :=
  if m = Nat.pow 2 52 ∧ -1074 < q then 4 * m - 1 else 4 * m - 2

/-- The upper end of the reals that round to `m · 2 ^ q`, halfway to the float above. -/
def upperEnd (m : Nat) : Nat :=
  4 * m + 2

/-! ## One grid -/

/-- Of the two multiples of `g` that enclose `v`, the one nearest to `v` among those that lie
between `lo` and `hi` (ends included when `closed`), if either does; a tie goes to the upper
one. The result counts multiples of `g`. -/
def nearestOnGrid (v lo hi g : Nat) (closed : Bool) : Option Nat :=
  let within (x : Nat) : Bool := if closed then lo ≤ x && x ≤ hi else lo < x && x < hi
  let down := v / g
  let up := if v % g = 0 then down else down + 1
  match within (down * g), within (up * g) with
  | true, true => if v - down * g < up * g - v then some down else some up
  | true, false => some down
  | false, true => some up
  | false, false => none

/-- The nearest point of the grid `10 ^ j` in the interval of `m · 2 ^ q`, if there is one. Both
sides are scaled to natural numbers: the binary side by `2 ^ max (q - 2) 0 · 10 ^ max (-j) 0`
and the grid by `10 ^ max j 0 · 2 ^ max (2 - q) 0`. -/
def onGrid (m : Nat) (q j : Int) : Option Decimal :=
  let s := q - 2
  let a := Nat.pow 2 s.toNat * Nat.pow 10 (-j).toNat
  let g := Nat.pow 10 j.toNat * Nat.pow 2 (-s).toNat
  (nearestOnGrid (4 * m * a) (lowerEnd m q * a) (upperEnd m * a) g (m % 2 == 0)).map
    fun c => ⟨c, j⟩

/-! ## The search -/

/-- Tries the grids `10 ^ j`, `10 ^ (j - 1)`, … and returns the first point found, giving up
after `fuel` grids. -/
def search (m : Nat) (q : Int) : Nat → Int → Decimal
  | 0, j => ⟨0, j⟩
  | fuel + 1, j =>
    match onGrid m q j with
    | some d => d
    | none => search m q fuel (j - 1)

/-- An exponent whose power of ten lies above every real that rounds to `m · 2 ^ q` when
`m < 2 ^ 53`: those reals are below `2 ^ (q + 53)`, and `30103 / 100000` exceeds `log10 2`. -/
def startExponent (q : Int) : Int :=
  (q + 53) * 30103 / 100000 + 2

/-- The shortest decimal in the rounding interval of the positive float `m · 2 ^ q`, nearest to
it, ties up. Seventeen digits always suffice and the search starts at most three grids above the
leading digit, so forty grids are never used up. -/
def shortest (m : Nat) (q : Int) : Decimal :=
  search m q 40 (startExponent q)

/-- The float nearest to `0.1` is written `0.1`. -/
example : shortest 7205759403792794 (-56) = ⟨1, -1⟩ := by decide +kernel
example : shortest (Nat.pow 2 52) (-52) = ⟨1, 0⟩ := by decide +kernel

end Calculator.Decimal
