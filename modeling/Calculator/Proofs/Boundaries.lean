import Calculator.Proofs.Numerals

/-! # The lexer's cursor stays on character boundaries

A lexer's cursor holds a byte offset into the line and the characters left from there. The
offset is a UTF-8 character boundary of the line, and the characters left are the line from
it (`Lexer.OnBoundary`): the offset is the byte length of the characters before it. That holds
at the start, and one call keeps it (`OnBoundary.nextToken`), because a call moves the offset by
the byte length of the characters it takes, and they are the front of what is left. So it holds
after any number of calls (`onBoundary_after`).

From the invariant: the offset is within the line and a boundary in the library's sense
(`String.Pos.Raw.IsValid`); a token's literal is the stretch of the line from the cursor to where
the call leaves it (`OnBoundary.slice`), so the sum of the offset and the literal's length never
passes the line's length and clamping it there changes nothing; and a prefixed integer's
literal begins with two one-byte characters, so its digits start on a boundary of it
(`nextToken_prefixed`). `nextToken_keeps_boundaries` gathers these for every call.
-/

namespace Calculator

set_option autoImplicit false

namespace Lexeme

open Decimal

theorem unprefixed_radix {c : Char} {r : List Char} {l : Lexeme (c :: r)} {value : Int32}
    {radix : Radix} (h : unprefixed c r = .ok l) (hk : l.kind = .integer value radix) :
    radix = .decimal := by
  unfold unprefixed at h
  dsimp only at h
  split at h
  · cases h
    cases hk
  · rw [integer_kind h] at hk
    cases hk
    rfl

theorem number_prefixed {c : Char} {r : List Char} {l : Lexeme (c :: r)} {value : Int32}
    {radix : Radix} (h : number c r = .ok l) (hk : l.kind = .integer value radix)
    (hr : radix ≠ .decimal) :
    ∃ letter ds, l.taken = '0' :: letter :: ds ∧ radixOfPrefix letter = some radix := by
  unfold number at h
  split at h
  · rename_i letter rest
    split at h
    · rename_i radix' hletter
      dsimp only at h
      split at h
      · exact absurd (unprefixed_radix h hk) hr
      · unfold integer at h
        split at h
        · cases h
          cases hk
          exact ⟨letter, _, rfl, hletter⟩
        · cases h
    · exact absurd (unprefixed_radix h hk) hr
  · exact absurd (unprefixed_radix h hk) hr

theorem next_prefixed : ∀ {cs : List Char} {l : Lexeme cs} {value : Int32} {radix : Radix},
    next cs = .ok (some l) → l.kind = .integer value radix → radix ≠ .decimal →
      ∃ letter ds, l.taken = '0' :: letter :: ds ∧ radixOfPrefix letter = some radix
  | [], _, _, _, h, _, _ => by simp [next] at h
  | c :: r, l, value, radix, h, hk, hr => by
    rcases next_cons_cases h with hl | hl | ⟨-, hnum⟩ | hl | hop | ⟨-, -, rfl⟩
    · rw [hl] at hk
      cases hk
    · rw [hl] at hk
      cases hk
    · exact number_prefixed hnum hk hr
    · rw [hl] at hk
      cases hk
    · obtain ⟨op, hop', -⟩ := operator?_spelled hop
      rw [hop'] at hk
      cases hk
    · cases hk

end Lexeme

namespace Lexer

/-- The cursor after `n` calls. -/
def after : Nat → Lexer → Lexer
  | 0, lx => lx
  | n + 1, lx => (after n lx).nextToken.2

/-- The cursor stands on a character boundary of the line `s`: the characters it has left are
those of `s` after a prefix, and its offset is the byte length of that prefix. -/
def OnBoundary (s : String) (lx : Lexer) : Prop :=
  ∃ pre : List Char, pre ++ lx.rest = s.toList ∧ lx.offset = (String.ofList pre).utf8ByteSize

theorem onBoundary_new (s : String) : (Lexer.new s).OnBoundary s :=
  ⟨[], by simp, rfl⟩

/-- What one call can do: fail, or meet the end of the line, and leave the cursor where it is;
or take a lexeme from the characters left and move past it. -/
theorem nextToken_cases (lx : Lexer) :
    (lx.nextToken.2 = lx ∧ ∀ t, lx.nextToken.1 = .ok t → t = ⟨.endOfInput, "", lx.offset⟩) ∨
      ∃ l : Lexeme lx.rest, Lexeme.next lx.rest = .ok (some l) ∧
        lx.nextToken = (.ok ⟨l.kind, String.ofList l.taken, lx.offset⟩,
          ⟨lx.offset + (String.ofList l.taken).utf8ByteSize, l.left⟩) := by
  rcases hn : Lexeme.next lx.rest with length | _ | l
  · rw [nextToken_of_error hn]
    exact .inl ⟨rfl, fun t ht => by cases ht⟩
  · rw [nextToken_of_none hn]
    exact .inl ⟨rfl, fun t ht => (Except.ok.inj ht).symm⟩
  · exact .inr ⟨l, rfl, nextToken_of_some hn⟩

theorem offset_le_nextToken (lx : Lexer) : lx.offset ≤ lx.nextToken.2.offset := by
  rcases nextToken_cases lx with ⟨hstay, -⟩ | ⟨l, -, hl⟩
  · rw [hstay]
  · rw [hl]
    exact Nat.le_add_right _ _

namespace OnBoundary

variable {s : String} {lx : Lexer}

theorem isValid (h : lx.OnBoundary s) : String.Pos.Raw.IsValid s ⟨lx.offset⟩ := by
  obtain ⟨pre, hs, ho⟩ := h
  rw [String.Pos.Raw.isValid_iff_exists_take_toList]
  refine ⟨pre.length, ?_⟩
  rw [← hs, List.take_left']
  · exact ho
  · rfl

theorem offset_le (h : lx.OnBoundary s) : lx.offset ≤ s.utf8ByteSize := by
  obtain ⟨pre, hs, ho⟩ := h
  have hsize : s.utf8ByteSize =
      (String.ofList pre).utf8ByteSize + (String.ofList lx.rest).utf8ByteSize := by
    rw [← String.utf8ByteSize_append, ← String.ofList_append, hs, String.ofList_toList]
  omega

/-- The step: one call keeps the cursor on a boundary, moved past the characters it took. -/
theorem nextToken (h : lx.OnBoundary s) : lx.nextToken.2.OnBoundary s := by
  obtain ⟨pre, hs, ho⟩ := h
  rcases nextToken_cases lx with ⟨hstay, -⟩ | ⟨l, -, hl⟩
  · rw [hstay]
    exact ⟨pre, hs, ho⟩
  · rw [hl]
    refine ⟨pre ++ l.taken, ?_, ?_⟩
    · rw [List.append_assoc, l.split, hs]
    · rw [String.ofList_append, String.utf8ByteSize_append, ho]

/-- A token a call answers starts at the cursor and is the stretch of the line up to where the
call leaves the cursor. -/
theorem slice (h : lx.OnBoundary s) {t : Token} {lx' : Lexer}
    (ht : lx.nextToken = (.ok t, lx')) :
    t.offset = lx.offset ∧
      (∃ pre post : String, pre ++ t.literal ++ post = s ∧ pre.utf8ByteSize = lx.offset) ∧
      lx'.offset = lx.offset + t.literal.utf8ByteSize := by
  obtain ⟨pre, hs, ho⟩ := h
  rcases nextToken_cases lx with ⟨hstay, hend⟩ | ⟨l, -, hl⟩
  · -- the end token: an empty literal at the cursor, which stays
    obtain rfl := hend t (congrArg Prod.fst ht)
    obtain rfl : lx = lx' := hstay.symm.trans (congrArg Prod.snd ht)
    refine ⟨rfl, ⟨String.ofList pre, String.ofList lx.rest, ?_, ho.symm⟩, rfl⟩
    rw [String.append_empty, ← String.ofList_append, hs, String.ofList_toList]
  · rw [hl] at ht
    cases ht
    refine ⟨rfl, ⟨String.ofList pre, String.ofList l.left, ?_, ho.symm⟩, rfl⟩
    rw [← String.ofList_append, ← String.ofList_append, List.append_assoc, l.split, hs,
      String.ofList_toList]

end OnBoundary

/-- The run: after any number of calls from the start of a line the cursor is on a boundary. -/
theorem onBoundary_after (s : String) : ∀ n, (after n (Lexer.new s)).OnBoundary s
  | 0 => onBoundary_new s
  | n + 1 => (onBoundary_after s n).nextToken

theorem nextToken_prefixed {lx lx' : Lexer} {t : Token} (ht : lx.nextToken = (.ok t, lx'))
    {value : Int32} {radix : Radix} (hk : t.kind = .integer value radix)
    (hr : radix ≠ .decimal) : String.Pos.Raw.IsValid t.literal ⟨2⟩ := by
  rcases nextToken_cases lx with ⟨-, hend⟩ | ⟨l, hn, hl⟩
  · rw [hend t (congrArg Prod.fst ht)] at hk
    cases hk
  · rw [hl] at ht
    cases ht
    obtain ⟨letter, ds, htaken, hletter⟩ := Lexeme.next_prefixed hn hk hr
    have hz := (Lexeme.radixLetters_letter ((Lexeme.radixOfPrefix_eq_some_iff _ _).1 hletter)).2.2
    rw [htaken, String.Pos.Raw.isValid_ofList]
    refine ⟨2, ?_⟩
    rw [List.take_succ_cons, List.take_succ_cons, List.take_zero,
      Lexeme.utf8ByteSize_ofList_of_le]
    · rfl
    · intro c hc
      simp only [List.mem_cons, List.not_mem_nil, or_false] at hc
      rcases hc with rfl | rfl
      · decide
      · exact hz

/-- The lexer's cursor stays on character boundaries. After any number of calls from the start
of a line, the cursor's offset is a character boundary of the line, no further than its length,
and the characters it has left are the line from there. The next call never moves it back. A
token that call answers starts at the cursor and is the stretch of the line up to where the call
leaves it, at the cursor's offset plus the literal's length: that sum never passes the line's
length, so clamping it there changes nothing. A prefixed integer's literal has a character
boundary two bytes in. -/
theorem nextToken_keeps_boundaries (s : String) (n : Nat) :
    ((Lexer.new s).after n).OnBoundary s ∧
      String.Pos.Raw.IsValid s ⟨((Lexer.new s).after n).offset⟩ ∧
      ((Lexer.new s).after n).offset ≤ s.utf8ByteSize ∧
      ((Lexer.new s).after n).offset ≤ ((Lexer.new s).after (n + 1)).offset ∧
      ∀ t, ((Lexer.new s).after n).nextToken.1 = .ok t →
        t.offset = ((Lexer.new s).after n).offset ∧
        (∃ pre post : String, pre ++ t.literal ++ post = s ∧ pre.utf8ByteSize = t.offset) ∧
        ((Lexer.new s).after (n + 1)).offset =
          min (t.offset + t.literal.utf8ByteSize) s.utf8ByteSize ∧
        ∀ value radix, t.kind = .integer value radix → radix ≠ .decimal →
          String.Pos.Raw.IsValid t.literal ⟨2⟩ := by
  have h : ((Lexer.new s).after n).OnBoundary s := onBoundary_after s n
  refine ⟨h, h.isValid, h.offset_le, offset_le_nextToken _, fun t ht => ?_⟩
  have hcall : ((Lexer.new s).after n).nextToken = (.ok t, (Lexer.new s).after (n + 1)) :=
    Prod.ext ht rfl
  obtain ⟨hoff, ⟨pre, post, hs, hpre⟩, hnext⟩ := h.slice hcall
  -- the next cursor is on a boundary too, so within the line
  have hin := (onBoundary_after s (n + 1)).offset_le
  refine ⟨hoff, ⟨pre, post, hs, hpre.trans hoff.symm⟩, ?_,
    fun value radix hk hr => nextToken_prefixed hcall hk hr⟩
  rw [hnext, ← hoff] at hin ⊢
  exact (Nat.min_eq_left hin).symm

end Lexer

end Calculator
