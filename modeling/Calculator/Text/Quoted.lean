import Calculator.Text.Printable
import Calculator.Text.Extending

/-! # Quoted text

`Text.quote` writes a text between double quotes so that every character can be seen:

* a double quote and a backslash get a backslash before them;
* NUL, tab, line feed and carriage return are written `\0`, `\t`, `\n` and `\r`;
* a character that shows nothing or attaches to the character before it is written `\u` and its
  code point in lower-case hexadecimal between braces: one that is not printable (controls,
  format characters, blanks other than the space, private use, unassigned code points), one
  that extends a grapheme (combining marks) and one that is default-ignorable (the Hangul
  fillers);
* every other character stands for itself.
-/

namespace Calculator.Text

set_option autoImplicit false

/-- Whether a character is written by its code point: it is not printable, it extends the
character before it, or it is default-ignorable. -/
def byCodePoint (c : Char) : Bool :=
  !isPrintable c || isExtending c || isIgnorable c

/-- How a character is written inside quotes. -/
def escape (c : Char) : String :=
  if c = '"' then "\\\""
  else if c = '\\' then "\\\\"
  else if c = '\x00' then "\\0"
  else if c = '\t' then "\\t"
  else if c = '\n' then "\\n"
  else if c = '\r' then "\\r"
  else if byCodePoint c then "\\u\x7b" ++ String.ofList (Nat.toDigits 16 c.toNat) ++ "\x7d"
  else String.singleton c

/-- A text between double quotes, every character visible. -/
def quote (s : String) : String :=
  "\"" ++ String.join (s.toList.map escape) ++ "\""

end Calculator.Text
