/-! # Blank characters

The characters with the Unicode White_Space property, the class that separates tokens and that
a line is trimmed of before it counts as empty:

* the ASCII controls tab, line feed, vertical tab, form feed and carriage return, and space;
* next line (U+0085) and no-break space (U+00A0);
* ogham space mark (U+1680) and the spaces from en quad to hair space (U+2000 to U+200A);
* line and paragraph separator (U+2028, U+2029), narrow no-break space (U+202F), medium
  mathematical space (U+205F) and ideographic space (U+3000).

The zero-width no-break space (U+FEFF) and the Mongolian vowel separator (U+180E) are not in
the class. `isBlank_of_isWhitespace` says that the class contains core's `Char.isWhitespace`.
-/

namespace Calculator.Text

set_option autoImplicit false

/-- Whether a character has the Unicode White_Space property. -/
def isBlank (c : Char) : Bool :=
  let n := c.toNat
  (0x09 ≤ n && n ≤ 0x0D) || n == 0x20 || n == 0x85 || n == 0xA0 || n == 0x1680 ||
    (0x2000 ≤ n && n ≤ 0x200A) || n == 0x2028 || n == 0x2029 || n == 0x202F ||
    n == 0x205F || n == 0x3000

/-- Whether a text holds blank characters only; the empty text does. -/
def allBlank (s : String) : Bool :=
  s.toList.all isBlank

theorem isBlank_of_isWhitespace (c : Char) (h : c.isWhitespace = true) : isBlank c = true := by
  simp only [Char.isWhitespace, Bool.or_eq_true, decide_eq_true_eq] at h
  rcases h with ((h | h) | h) | h <;> subst h <;> decide

example : isBlank ' ' = true ∧ isBlank '\u3000' = true ∧ isBlank '\u000b' = true := by
  decide

example : isBlank '\uFEFF' = false ∧ isBlank '\u180E' = false ∧ isBlank 'a' = false := by
  decide

end Calculator.Text
