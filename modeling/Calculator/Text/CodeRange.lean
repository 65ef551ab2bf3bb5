/-! # Ranges of code points

A `CodeRange` is a closed interval of Unicode code points. The character tables of this library
(`Text.unprintable`, `Text.graphemeExtend`, `Text.defaultIgnorable`) are lists of such ranges in
increasing order, and `CodeRange.anyContains` looks a code point up in one of them.
`anyContains_iff` says that the look-up is membership in the union of the ranges.
-/

namespace Calculator.Text

set_option autoImplicit false

/-- A closed interval of code points, from `lo` to `hi` with both ends included. -/
structure CodeRange where
  lo : Nat
  hi : Nat

def CodeRange.contains (r : CodeRange) (n : Nat) : Bool :=
  r.lo ≤ n && n ≤ r.hi

/-- Whether a code point lies in one of the ranges of a table. -/
def CodeRange.anyContains (rs : List CodeRange) (n : Nat) : Bool :=
  rs.any (·.contains n)

@[simp]
theorem CodeRange.contains_iff (r : CodeRange) (n : Nat) :
    r.contains n = true ↔ r.lo ≤ n ∧ n ≤ r.hi := by
  simp only [CodeRange.contains, Bool.and_eq_true, decide_eq_true_eq]

theorem CodeRange.anyContains_iff (rs : List CodeRange) (n : Nat) :
    CodeRange.anyContains rs n = true ↔ ∃ r ∈ rs, r.lo ≤ n ∧ n ≤ r.hi := by
  simp only [CodeRange.anyContains, List.any_eq_true, CodeRange.contains_iff]

example : CodeRange.anyContains [⟨0x30, 0x39⟩, ⟨0x41, 0x46⟩] 0x42 = true := by decide

example : CodeRange.anyContains [⟨0x30, 0x39⟩, ⟨0x41, 0x46⟩] 0x40 = false := by decide

end Calculator.Text
