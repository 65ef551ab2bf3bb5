import Calculator.Token
import Calculator.Text.Blank
import Calculator.Decimal.Read

/-! # Cutting a line into tokens

`Lexeme.next` reads the token at the front of the rest of a line, trying in this order:

1. `(` and `)`;
2. on an ASCII digit, a number: `0x`, `0o` or `0b` with at least one digit of base 16, 8 or 2
   (lower-case prefix only), whose value must be below `2 ^ 32` and is then read as the 32-bit
   pattern it fills (`0xFFFFFFFF` is `-1`); else digits, a point and optional digits, a float
   rounded to nearest (infinite when too large); else digits, an integer that must be below
   `2 ^ 31`;
3. a run of blank characters (`Text.isBlank`);
4. an operator, the first of `Operator.all` whose spelling begins the rest, even inside a word
   (`orange` is `or` then `ange`);
5. a name: an ASCII letter, then ASCII letters and digits.

Anything else is a lexical error at that character, as long as its UTF-8 encoding; a number
out of range is an error at its first character, as long as its literal.

`Token.scan` applies `Lexeme.next` from the start of a line until the end or the first error,
and `Token.scanLine` returns the tokens read before the end (the end itself excluded) with the
error, if one stopped it. Offsets count UTF-8 bytes.
-/

namespace Calculator

set_option autoImplicit false

/-- A lexical error: the byte offset of the token that cannot be read, and the byte length of
the offending literal or character. -/
structure LexError where
  position : Nat
  length : Nat
  deriving DecidableEq, Repr

def LexError.message (e : LexError) : String :=
  "invalid input at " ++ toString e.position

/-- A token read from the front of `cs`, the rest of a line: its kind, the characters it takes
and the characters left after it, which together are `cs`. A token takes at least one
character. -/
structure Lexeme (cs : List Char) where
  kind : TokenKind
  taken : List Char
  left : List Char
  split : taken ++ left = cs
  nonempty : taken ≠ []

namespace Lexeme

open Decimal

theorem shorter {cs : List Char} (l : Lexeme cs) : l.left.length < cs.length := by
  have h := congrArg List.length l.split
  have hn : 0 < l.taken.length := List.length_pos_iff.mpr l.nonempty
  simp only [List.length_append] at h
  omega

/-! ## Character classes -/

def isLetter (c : Char) : Bool :=
  ('a' ≤ c && c ≤ 'z') || ('A' ≤ c && c ≤ 'Z')

def isNameChar (c : Char) : Bool :=
  isLetter c || isDigit c

def isRadixDigit : Radix → Char → Bool
  | .binary, c => c = '0' || c = '1'
  | .octal, c => '0' ≤ c && c ≤ '7'
  | .decimal, c => isDigit c
  | .hex, c => isDigit c || ('a' ≤ c && c ≤ 'f') || ('A' ≤ c && c ≤ 'F')

/-- The value of a digit of any radix up to sixteen. -/
def digitValue (c : Char) : Nat :=
  if isDigit c then c.toNat - 48
  else if 'a' ≤ c && c ≤ 'f' then c.toNat - 87
  else c.toNat - 55

/-- The radix a prefix letter after `0` announces. -/
def radixOfPrefix : Char → Option Radix
  | 'x' => some .hex
  | 'o' => some .octal
  | 'b' => some .binary
  | _ => none

/-- A character of a class followed by the longest run of that class after it, as a lexeme. -/
def run (kind : TokenKind) (p : Char → Bool) (c : Char) (r : List Char) : Lexeme (c :: r) :=
  ⟨kind, c :: r.takeWhile p, r.dropWhile p, by simp [List.takeWhile_append_dropWhile], by simp⟩

/-! ## Numbers

A number gives its lexeme, or the byte length of a literal out of range. -/

/-- An integer literal with its value, which must be below `bound`; its 32-bit pattern is the
token's value. -/
def integer {cs : List Char} (radix : Radix) (value bound : Nat) (taken left : List Char)
    (split : taken ++ left = cs) (nonempty : taken ≠ []) : Except Nat (Lexeme cs) :=
  if value < bound then .ok ⟨.integer (Int32.ofNat value) radix, taken, left, split, nonempty⟩
  else .error taken.length

/-- A number without a radix prefix, from its first digit `c`: a float when a point follows the
digits, else a decimal integer. -/
def unprefixed (c : Char) (r : List Char) : Except Nat (Lexeme (c :: r)) :=
  let more := r.takeWhile isDigit
  match h : r.dropWhile isDigit with
  | '.' :: afterPoint =>
    let fraction := afterPoint.takeWhile isDigit
    let value := toFloat (decimalValue (c :: more ++ fraction)) (-(fraction.length : Int))
    .ok ⟨.float value, c :: more ++ '.' :: fraction, afterPoint.dropWhile isDigit, by
      have hr : more ++ r.dropWhile isDigit = r := List.takeWhile_append_dropWhile
      rw [h] at hr
      have ha : fraction ++ afterPoint.dropWhile isDigit = afterPoint :=
        List.takeWhile_append_dropWhile
      simp only [List.cons_append, List.append_assoc, ha, hr], by simp⟩
  | rest =>
    integer .decimal (decimalValue (c :: more)) (Nat.pow 2 31) (c :: more) rest
      (by rw [← h]; simp [more, List.takeWhile_append_dropWhile]) (by simp)

/-- A number, at a digit `c`: a prefixed integer when a prefix and at least one of its digits
follow `0`, else `unprefixed`. -/
def number (c : Char) (r : List Char) : Except Nat (Lexeme (c :: r)) :=
  match c, r with
  | '0', p :: rest =>
    match radixOfPrefix p with
    | some radix =>
      let ds := rest.takeWhile (isRadixDigit radix)
      if ds.isEmpty then unprefixed '0' (p :: rest)
      else
        integer radix (digitsValue radix.base digitValue ds) (Nat.pow 2 32) ('0' :: p :: ds)
          (rest.dropWhile (isRadixDigit radix)) (by simp [ds, List.takeWhile_append_dropWhile])
          (by simp)
    | none => unprefixed '0' (p :: rest)
  | c, r => unprefixed c r

/-! ## Operators -/

/-- The rest of `cs` after `pre`, if `cs` begins with `pre`. -/
def stripPrefix? : List Char → List Char → Option (List Char)
  | [], cs => some cs
  | _ :: _, [] => none
  | p :: ps, c :: cs => if p = c then stripPrefix? ps cs else none

theorem append_of_stripPrefix? : ∀ {pre cs left : List Char},
    stripPrefix? pre cs = some left → pre ++ left = cs
  | [], cs, left, h => by simp only [stripPrefix?, Option.some.injEq] at h; simp [h]
  | _ :: _, [], _, h => by simp [stripPrefix?] at h
  | p :: ps, c :: cs, left, h => by
    simp only [stripPrefix?] at h
    split at h
    · rename_i hpc
      subst hpc
      simp [append_of_stripPrefix? h]
    · simp at h

/-- The first of `ops` whose spelling begins `cs`, with the rest of `cs` after it. -/
def matchOperator (cs : List Char) : List Operator → Option (Operator × List Char)
  | [] => none
  | op :: ops =>
    match stripPrefix? op.chars cs with
    | some left => some (op, left)
    | none => matchOperator cs ops

theorem append_of_matchOperator {cs : List Char} : ∀ {ops : List Operator} {op : Operator}
    {left : List Char}, matchOperator cs ops = some (op, left) → op.chars ++ left = cs
  | [], _, _, h => by simp [matchOperator] at h
  | o :: ops, op, left, h => by
    simp only [matchOperator] at h
    split at h
    · rename_i l hl
      simp only [Option.some.injEq, Prod.mk.injEq] at h
      obtain ⟨rfl, rfl⟩ := h
      exact append_of_stripPrefix? hl
    · exact append_of_matchOperator h

/-- The operator at the front of `cs`, the first of `Operator.all` that begins it. -/
def operator? (cs : List Char) : Option (Lexeme cs) :=
  match h : matchOperator cs Operator.all with
  | some (op, left) => some ⟨.operator op, op.chars, left, append_of_matchOperator h,
      op.chars_ne_nil⟩
  | none => none

/-! ## One token -/

/-- The token at the front of `cs`: `none` at the end of the line, or the byte length of what
cannot be read. -/
def next : (cs : List Char) → Except Nat (Option (Lexeme cs))
  | [] => .ok none
  | c :: r =>
    if c = '(' then .ok (some ⟨.openParen, [c], r, rfl, by simp⟩)
    else if c = ')' then .ok (some ⟨.closeParen, [c], r, rfl, by simp⟩)
    else if isDigit c then (number c r).map some
    else if Text.isBlank c then .ok (some (run .blank Text.isBlank c r))
    else match operator? (c :: r) with
      | some l => .ok (some l)
      | none =>
        if isLetter c then .ok (some (run .ident isNameChar c r))
        else .error c.utf8Size

end Lexeme

/-! ## A whole line -/

namespace Token

/-- The tokens from `offset` on, where `cs` is the rest of the line: those read before the end
of the line or a lexical error, and that error if there is one. -/
def scan (offset : Nat) (cs : List Char) : List Token × Option LexError :=
  match Lexeme.next cs with
  | .error length => ([], some ⟨offset, length⟩)
  | .ok none => ([], none)
  | .ok (some l) =>
    let literal := String.ofList l.taken
    let (tokens, error) := scan (offset + literal.utf8ByteSize) l.left
    (⟨l.kind, literal, offset⟩ :: tokens, error)
termination_by cs.length
decreasing_by exact l.shorter

/-- The tokens of a line before its end, and the lexical error that stopped the reading early,
if one did. -/
def scanLine (line : String) : List Token × Option LexError :=
  scan 0 line.toList

def endOf (line : String) : Token :=
  ⟨.endOfInput, "", line.utf8ByteSize⟩

/-- Whether reading again after the end of a line finds its end once more. -/
def endRepeats (line : String) : Bool :=
  match scan line.utf8ByteSize [] with
  | ([], none) => true
  | _ => false

end Token

/-! ## The lexer as a cursor

The same reading, one call at a time: a `Lexer` stands at a byte offset with the characters
left from there, and each call answers with the token there and moves past it. At the end of
the line it answers with the end token and stays; at an error it stays too, so a call after an
error fails again. -/

/-- A lexer's cursor: the byte offset reached and the characters of the line from there on. -/
structure Lexer where
  offset : Nat
  rest : List Char

namespace Lexer

def new (line : String) : Lexer :=
  ⟨0, line.toList⟩

/-- One call: the answer and the cursor after it. -/
def nextToken (lx : Lexer) : Except LexError Token × Lexer :=
  match Lexeme.next lx.rest with
  | .error length => (.error ⟨lx.offset, length⟩, lx)
  | .ok none => (.ok ⟨.endOfInput, "", lx.offset⟩, lx)
  | .ok (some l) =>
    let literal := String.ofList l.taken
    (.ok ⟨l.kind, literal, lx.offset⟩, ⟨lx.offset + literal.utf8ByteSize, l.left⟩)

def calls : Nat → Lexer → List (Except LexError Token)
  | 0, _ => []
  | n + 1, lx => lx.nextToken.1 :: calls n lx.nextToken.2

end Lexer

/-! ## The lexer as a stream

The calls of a lexer read as a stream of items: each token before the end of the line, then the
error if a call fails, and after that nothing. The stream remembers a failure, because the
cursor stays where it failed and would fail there again on every call. -/

/-- A lexer read as a stream: its cursor, and whether a call has failed. -/
structure TokenStream where
  lexer : Lexer
  failed : Bool

namespace TokenStream

def new (line : String) : TokenStream :=
  ⟨Lexer.new line, false⟩

/-- The next item, or `none` at the end of the line and after a failure. -/
def next (st : TokenStream) : Option (Except LexError Token) × TokenStream :=
  if st.failed then (none, st)
  else
    match st.lexer.nextToken with
    | (.ok t, lx) =>
      match t.kind with
      | .endOfInput => (none, ⟨lx, false⟩)
      | _ => (some (.ok t), ⟨lx, false⟩)
    | (.error e, lx) => (some (.error e), ⟨lx, true⟩)

def calls : Nat → TokenStream → List (Option (Except LexError Token))
  | 0, _ => []
  | n + 1, st => st.next.1 :: calls n st.next.2

end TokenStream

end Calculator
