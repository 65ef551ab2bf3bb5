import Calculator.Token.Scan

/-! # The tokens of a line tile it

Calling the lexer again and again from the start of a line gives tokens that lie end to end
from offset zero, each taking at least one byte of the line, and then the end of the line or an
error at the offset where the last token ends. Once the line is read through, every further
call gives the same end token, at the line's length.

The argument is one run lemma, `drains_scan`: from any cursor, the tokens `Token.scan` reads
are what the calls give, they tile the characters left from the cursor's offset, and whatever
stopped them stands where they end (`Drains`). `Token.scanLine` is that reading from the start
of the line, so the same tokens are the ones the parser and the token listing see.
-/

namespace Calculator

set_option autoImplicit false

/-! ## A lexeme is never the end of the line -/

/-- Whether a token kind is a number's. -/
def TokenKind.isNumber : TokenKind → Bool
  | .integer .. | .float _ => true
  | _ => false

namespace Lexeme

theorem integer_kind {cs : List Char} {radix : Radix} {value bound : Nat} {taken left : List Char}
    {split : taken ++ left = cs} {nonempty : taken ≠ []} {l : Lexeme cs}
    (h : integer radix value bound taken left split nonempty = .ok l) :
    l.kind = .integer (Int32.ofNat value) radix := by
  unfold integer at h
  split at h
  · cases h
    rfl
  · cases h

theorem unprefixed_isNumber {c : Char} {r : List Char} {l : Lexeme (c :: r)}
    (h : unprefixed c r = .ok l) : l.kind.isNumber = true := by
  unfold unprefixed at h
  dsimp only at h
  split at h
  · cases h
    rfl
  · rw [integer_kind h]
    rfl

theorem number_isNumber {c : Char} {r : List Char} {l : Lexeme (c :: r)}
    (h : number c r = .ok l) : l.kind.isNumber = true := by
  unfold number at h
  split at h
  · split at h
    · dsimp only at h
      split at h
      · exact unprefixed_isNumber h
      · rw [integer_kind h]
        rfl
    · exact unprefixed_isNumber h
  · exact unprefixed_isNumber h

theorem operator?_spelled {cs : List Char} {l : Lexeme cs} (h : operator? cs = some l) :
    ∃ op, l.kind = .operator op ∧ l.taken = op.chars := by
  unfold operator? at h
  split at h
  · cases h
    exact ⟨_, rfl, rfl⟩
  · cases h

theorem run_kind (kind : TokenKind) (p : Char → Bool) (c : Char) (r : List Char) :
    (run kind p c r).kind = kind := rfl

/-- The ways a lexeme is read at the front of a line, one for each branch of `next`: a
parenthesis, a number at a digit, a blank run, an operator, or else a name at a letter. -/
theorem next_cons_cases {c : Char} {r : List Char} {l : Lexeme (c :: r)}
    (h : next (c :: r) = .ok (some l)) :
    l.kind = .openParen ∨ l.kind = .closeParen ∨ (Decimal.isDigit c = true ∧ number c r = .ok l) ∨
      l.kind = .blank ∨ operator? (c :: r) = some l ∨
      (operator? (c :: r) = none ∧ isLetter c = true ∧ l = run .ident isNameChar c r) := by
  rw [next] at h
  split at h
  · cases h
    exact .inl rfl
  split at h
  · cases h
    exact .inr (.inl rfl)
  split at h
  · rename_i hd
    cases hn : number c r with
    | error n => simp [hn, Except.map] at h
    | ok l' =>
      simp only [hn, Except.map, Except.ok.injEq, Option.some.injEq] at h
      subst h
      exact .inr (.inr (.inl ⟨hd, rfl⟩))
  split at h
  · cases h
    exact .inr (.inr (.inr (.inl rfl)))
  split at h
  · rename_i l' hop
    simp only [Except.ok.injEq, Option.some.injEq] at h
    subst h
    exact .inr (.inr (.inr (.inr (.inl hop))))
  · rename_i hop
    split at h
    · rename_i hc
      cases h
      exact .inr (.inr (.inr (.inr (.inr ⟨hop, hc, rfl⟩))))
    · cases h

theorem next_kind_ne : ∀ {cs : List Char} {l : Lexeme cs}, next cs = .ok (some l) →
    l.kind ≠ .endOfInput
  | [], _, h => by simp [next] at h
  | c :: r, l, h => by
    intro hk
    rcases next_cons_cases h with hl | hl | ⟨-, hn⟩ | hl | hop | ⟨-, -, rfl⟩
    · rw [hl] at hk
      cases hk
    · rw [hl] at hk
      cases hk
    · have hnum := number_isNumber hn
      rw [hk] at hnum
      cases hnum
    · rw [hl] at hk
      cases hk
    · obtain ⟨op, hop', -⟩ := operator?_spelled hop
      rw [hop'] at hk
      cases hk
    · cases hk

theorem next_eq_none : ∀ {cs : List Char}, next cs = .ok none → cs = []
  | [], _ => rfl
  | c :: r, h => by
    rw [next] at h
    split at h
    · cases h
    split at h
    · cases h
    split at h
    · cases hn : number c r <;> simp [hn, Except.map] at h
    split at h
    · cases h
    split at h
    · cases h
    · split at h <;> cases h

end Lexeme

/-! ## Tokens end to end -/

namespace Token

/-- The literals of tokens, one after another. -/
def literals (ts : List Token) : String :=
  String.join (ts.map (·.literal))

@[simp] theorem literals_nil : literals [] = "" := String.join_nil

@[simp] theorem literals_cons (t : Token) (ts : List Token) :
    literals (t :: ts) = t.literal ++ literals ts :=
  String.join_cons

/-- Tokens that lie end to end from `offset` on: each starts where the one before it ends, is
a token of the line and not its end, and takes at least one byte. -/
def Tiles : Nat → List Token → Prop
  | _, [] => True
  | offset, t :: ts =>
    t.offset = offset ∧ t.kind ≠ .endOfInput ∧ t.literal ≠ "" ∧
      Tiles (offset + t.literal.utf8ByteSize) ts

theorem Tiles.length_le : ∀ {offset : Nat} {ts : List Token}, Tiles offset ts →
    ts.length ≤ (literals ts).utf8ByteSize
  | _, [], _ => by simp
  | _, t :: _, ⟨_, _, hne, h⟩ => by
    have hpos : t.literal.utf8ByteSize ≠ 0 := fun h0 => hne (String.utf8ByteSize_eq_zero_iff.1 h0)
    have ih := h.length_le
    rw [literals_cons, String.utf8ByteSize_append, List.length_cons]
    omega

theorem Tiles.slices : ∀ {offset : Nat} {ts : List Token}, Tiles offset ts → ∀ t ∈ ts,
    ∃ pre post : String, pre ++ t.literal ++ post = literals ts ∧
      offset + pre.utf8ByteSize = t.offset
  | _, [], _, _, ht => by simp at ht
  | _, u :: ts, ⟨hu, _, _, h⟩, t, ht => by
    rcases List.mem_cons.1 ht with rfl | ht
    · exact ⟨"", literals ts, by simp, by simp [hu]⟩
    · obtain ⟨pre, post, hs, ho⟩ := h.slices t ht
      refine ⟨u.literal ++ pre, post, ?_, ?_⟩
      · rw [literals_cons, ← hs, String.append_assoc, String.append_assoc, String.append_assoc]
      · rw [String.utf8ByteSize_append, ← ho]
        omega

theorem Tiles.reach : ∀ {offset : Nat} {ts : List Token}, Tiles offset ts →
    (ts.getLast?.map fun t => t.offset + t.literal.utf8ByteSize).getD offset =
      offset + (literals ts).utf8ByteSize
  | _, [], _ => by simp
  | _, [t], ⟨ht, _, _, _⟩ => by simp [ht]
  | offset, t :: u :: ts, ⟨_, _, _, h⟩ => by
    have ih := h.reach
    rw [List.getLast?_cons_cons]
    rw [List.getLast?_eq_some_getLast (List.cons_ne_nil u ts)] at ih ⊢
    simp only [Option.map_some, Option.getD_some] at ih ⊢
    rw [ih]
    simp only [literals_cons, String.utf8ByteSize_append]
    omega

theorem scan_of_some {offset : Nat} {cs : List Char} {l : Lexeme cs}
    (h : Lexeme.next cs = .ok (some l)) :
    scan offset cs =
      (⟨l.kind, String.ofList l.taken, offset⟩ ::
          (scan (offset + (String.ofList l.taken).utf8ByteSize) l.left).1,
        (scan (offset + (String.ofList l.taken).utf8ByteSize) l.left).2) := by
  rw [scan, h]

theorem scan_of_none {offset : Nat} {cs : List Char} (h : Lexeme.next cs = .ok none) :
    scan offset cs = ([], none) := by
  rw [scan, h]

theorem scan_of_error {offset length : Nat} {cs : List Char}
    (h : Lexeme.next cs = .error length) :
    scan offset cs = ([], some ⟨offset, length⟩) := by
  rw [scan, h]

end Token

/-! ## Calls of the lexer -/

namespace Lexer

theorem nextToken_of_some {lx : Lexer} {l : Lexeme lx.rest} (h : Lexeme.next lx.rest = .ok (some l)) :
    lx.nextToken = (.ok ⟨l.kind, String.ofList l.taken, lx.offset⟩,
      ⟨lx.offset + (String.ofList l.taken).utf8ByteSize, l.left⟩) := by
  rw [nextToken, h]

theorem nextToken_of_none {lx : Lexer} (h : Lexeme.next lx.rest = .ok none) :
    lx.nextToken = (.ok ⟨.endOfInput, "", lx.offset⟩, lx) := by
  rw [nextToken, h]

theorem nextToken_of_error {lx : Lexer} {length : Nat} (h : Lexeme.next lx.rest = .error length) :
    lx.nextToken = (.error ⟨lx.offset, length⟩, lx) := by
  rw [nextToken, h]

theorem calls_of_stays {lx : Lexer} {a : Except LexError Token} (h : lx.nextToken = (a, lx)) :
    ∀ n, lx.calls n = List.replicate n a
  | 0 => rfl
  | n + 1 => by
    rw [calls, h, calls_of_stays h n]
    rfl

@[simp] theorem new_offset (line : String) : (Lexer.new line).offset = 0 := rfl

@[simp] theorem new_rest (line : String) : (Lexer.new line).rest = line.toList := rfl

/-- What a call gives once the reading has stopped: the end token at `offset` when nothing
went wrong, else the error. -/
def stopAnswer (offset : Nat) : Option LexError → Except LexError Token
  | none => .ok ⟨.endOfInput, "", offset⟩
  | some e => .error e

/-- The tokens `ts` and the stop `err` are what calls from `lx` give: the tokens in order, then
the stop for good. The tokens tile the characters left from the cursor's offset on; the stop
is the end of those characters when there is no error, and an error stands where the tokens
end. -/
structure Drains (lx : Lexer) (ts : List Token) (err : Option LexError) : Prop where
  tiles : Token.Tiles lx.offset ts
  covers : ∃ rest : List Char, Token.literals ts ++ String.ofList rest = String.ofList lx.rest ∧
    (err = none → rest = [])
  stops : ∀ e ∈ err, e.position = lx.offset + (Token.literals ts).utf8ByteSize
  answers : ∀ n, lx.calls (ts.length + n) =
    ts.map .ok ++ List.replicate n (stopAnswer (lx.offset + (Token.literals ts).utf8ByteSize) err)

/-- The run lemma: reading from a cursor to the end or the first error is what the calls from
that cursor give, one token per call. The induction follows the reading, on the characters
left. -/
theorem drains_scan (lx : Lexer) :
    Drains lx (Token.scan lx.offset lx.rest).1 (Token.scan lx.offset lx.rest).2 :=
  match hn : Lexeme.next lx.rest with
  | .error length => by
    rw [Token.scan_of_error hn]
    refine ⟨trivial, ⟨lx.rest, by simp, by simp⟩, ?_, ?_⟩
    · intro e he
      cases he
      simp
    · intro n
      simpa [stopAnswer] using calls_of_stays (nextToken_of_error hn) n
  | .ok none => by
    have hrest := Lexeme.next_eq_none hn
    rw [Token.scan_of_none hn]
    refine ⟨trivial, ⟨[], by simp [hrest], fun _ => rfl⟩, by simp, ?_⟩
    intro n
    simpa [stopAnswer] using calls_of_stays (nextToken_of_none hn) n
  | .ok (some l) => by
    have ih := drains_scan ⟨lx.offset + (String.ofList l.taken).utf8ByteSize, l.left⟩
    rw [Token.scan_of_some hn]
    have hlit : String.ofList l.taken ≠ "" := fun h => l.nonempty (String.ofList_eq_empty_iff.1 h)
    refine ⟨⟨rfl, Lexeme.next_kind_ne hn, hlit, ih.tiles⟩, ?_, ?_, ?_⟩
    · obtain ⟨rest, hcov, hend⟩ := ih.covers
      refine ⟨rest, ?_, hend⟩
      rw [Token.literals_cons, String.append_assoc, hcov, ← String.ofList_append, l.split]
    · intro e he
      rw [ih.stops e he, Token.literals_cons, String.utf8ByteSize_append]
      dsimp only
      omega
    · intro n
      have hlen : (Token.scan (lx.offset + (String.ofList l.taken).utf8ByteSize) l.left).1.length
          + n + 1 = ((⟨l.kind, String.ofList l.taken, lx.offset⟩ : Token) ::
            (Token.scan (lx.offset + (String.ofList l.taken).utf8ByteSize) l.left).1).length + n := by
        simp only [List.length_cons]
        omega
      have hoff : lx.offset + (String.ofList l.taken).utf8ByteSize +
          (Token.literals (Token.scan (lx.offset + (String.ofList l.taken).utf8ByteSize)
            l.left).1).utf8ByteSize =
          lx.offset + (Token.literals ((⟨l.kind, String.ofList l.taken, lx.offset⟩ : Token) ::
            (Token.scan (lx.offset + (String.ofList l.taken).utf8ByteSize) l.left).1)).utf8ByteSize := by
        rw [Token.literals_cons, String.utf8ByteSize_append]
        dsimp only
        omega
      rw [← hlen, calls, nextToken_of_some hn]
      simp only
      rw [ih.answers n, hoff]
      rfl
termination_by lx.rest.length
decreasing_by exact l.shorter

/-! ## A whole line -/

/-- Lexing tiles the line. The calls from the start of a line give tokens `ts`, no more of
them than the line has bytes, lying end to end from offset zero, each literal the stretch of
the line at its token's offset. Then either the line is read through: the literals make it up
and every further call gives the end token, at the line's length with an empty literal; or the
next call fails, at the offset where the last token ends (zero when there is none). These are
the tokens `Token.scanLine` reads. -/
theorem nextToken_tiles_line (s : String) :
    ∃ ts : List Token, ts.length ≤ s.utf8ByteSize ∧ Token.Tiles 0 ts ∧
      (∀ t ∈ ts, ∃ pre post : String, pre ++ t.literal ++ post = s ∧
        pre.utf8ByteSize = t.offset) ∧
      ((Token.scanLine s = (ts, none) ∧ Token.literals ts = s ∧
          ∀ n, (Lexer.new s).calls (ts.length + n) =
            ts.map .ok ++ List.replicate n (.ok ⟨.endOfInput, "", s.utf8ByteSize⟩)) ∨
        ∃ e : LexError, Token.scanLine s = (ts, some e) ∧
          e.position = (ts.getLast?.map fun t => t.offset + t.literal.utf8ByteSize).getD 0 ∧
          (Lexer.new s).calls (ts.length + 1) = ts.map .ok ++ [.error e]) := by
  have hd : Lexer.Drains (Lexer.new s) (Token.scanLine s).1 (Token.scanLine s).2 :=
    Lexer.drains_scan (Lexer.new s)
  rcases hscan : Token.scanLine s with ⟨ts, err⟩
  rw [hscan] at hd
  obtain ⟨tiles, ⟨rest, hcov, hend⟩, stops, answers⟩ := hd
  simp only [Lexer.new_offset, Lexer.new_rest, Nat.zero_add] at tiles hcov stops answers
  have hline : Token.literals ts ++ String.ofList rest = s := by
    rw [hcov]
    exact String.ofList_toList
  have hsize : (Token.literals ts).utf8ByteSize ≤ s.utf8ByteSize := by
    rw [← hline, String.utf8ByteSize_append]
    omega
  refine ⟨ts, Nat.le_trans tiles.length_le hsize, tiles, ?_, ?_⟩
  · intro t ht
    obtain ⟨pre, post, hpre, hoff⟩ := tiles.slices t ht
    refine ⟨pre, post ++ String.ofList rest, ?_, by omega⟩
    rw [← String.append_assoc, hpre, hline]
  · cases err with
    | none =>
      have hall : Token.literals ts = s := by
        rw [← hline, hend rfl]
        simp
      refine Or.inl ⟨rfl, hall, fun n => ?_⟩
      rw [answers n]
      simp [Lexer.stopAnswer, hall]
    | some e =>
      refine Or.inr ⟨e, rfl, ?_, ?_⟩
      · rw [stops e rfl, tiles.reach, Nat.zero_add]
      · simpa [Lexer.stopAnswer] using answers 1

end Lexer

end Calculator
