import Calculator.Proofs.Numerals

/-! # Where the lexer fails

A call of the lexer fails in two ways only: at a number out of range (`Lexeme.Overflows`: a
prefixed literal whose digits need more than 32 bits, or a decimal one above `2 ^ 31 - 1`), or at
a character where no token can start (`Lexeme.CanStart`: neither a parenthesis, a digit, a
blank, an ASCII letter, one of `+ - * / ^`, nor `<` before `-`). The error stands at the cursor,
as long as the number's literal or the character's UTF-8 encoding, and the cursor stays, so
every later call fails the same way. Floats and operators are always read.

The operator branch is the one to look at: the lexer tries the spellings of `Operator.all` in
order, and `Lexeme.operator?_eq_none_iff` says it finds none exactly when no spelling begins
the rest of the line. Main statement: `nextToken_fails_iff`.
-/

namespace Calculator

set_option autoImplicit false

namespace Lexeme

open Decimal

/-! ## Operators at the front of a line -/

theorem stripPrefix?_eq_some_iff : ∀ {pre cs left : List Char},
    stripPrefix? pre cs = some left ↔ cs = pre ++ left
  | [], cs, left => by simp [stripPrefix?]
  | _ :: _, [], _ => by simp [stripPrefix?]
  | p :: ps, c :: cs, left => by
    rw [stripPrefix?, List.cons_append, List.cons.injEq]
    split
    · rename_i hpc
      rw [stripPrefix?_eq_some_iff]
      simp [hpc]
    · rename_i hpc
      simp [Ne.symm hpc]

theorem stripPrefix?_eq_none_iff {pre cs : List Char} :
    stripPrefix? pre cs = none ↔ ¬ pre <+: cs := by
  rw [Option.eq_none_iff_forall_ne_some]
  simp only [ne_eq, stripPrefix?_eq_some_iff, List.IsPrefix]
  constructor
  · rintro h ⟨left, hleft⟩
    exact h left hleft.symm
  · rintro h left rfl
    exact h ⟨left, rfl⟩

theorem matchOperator_eq_none_iff {cs : List Char} : ∀ {ops : List Operator},
    matchOperator cs ops = none ↔ ∀ op ∈ ops, ¬ op.chars <+: cs
  | [] => by simp [matchOperator]
  | op :: ops => by
    rw [matchOperator]
    split
    · rename_i left hleft
      simp only [reduceCtorEq, false_iff, not_forall, List.mem_cons]
      exact ⟨op, .inl rfl, not_not.2 ⟨left, (stripPrefix?_eq_some_iff.1 hleft).symm⟩⟩
    · rename_i hnone
      rw [matchOperator_eq_none_iff, List.forall_mem_cons]
      exact ⟨fun h => ⟨stripPrefix?_eq_none_iff.1 hnone, h⟩, And.right⟩

theorem Operator.mem_all (op : Operator) : op ∈ Operator.all := by
  cases op <;> decide

theorem operator?_eq_none_iff {cs : List Char} :
    operator? cs = none ↔ ∀ op : Operator, ¬ op.chars <+: cs := by
  have h : matchOperator cs Operator.all = none ↔ ∀ op : Operator, ¬ op.chars <+: cs := by
    rw [matchOperator_eq_none_iff]
    exact ⟨fun h op => h op (Operator.mem_all op), fun h op _ => h op⟩
  rw [← h]
  unfold operator?
  split <;> simp_all

theorem head_of_chars_prefix {op : Operator} {c : Char} {r : List Char}
    (h : op.chars <+: c :: r) :
    isLetter c = true ∨ c ∈ ['+', '-', '*', '/', '^'] ∨ (c = '<' ∧ r.head? = some '-') := by
  cases op
  case assign =>
    obtain ⟨rfl, t, rfl⟩ : '<' = c ∧ ∃ t, '-' :: t = r := by
      simpa [Operator.chars, List.IsPrefix] using h
    simp
  case plus | minus | star | slash | caret =>
    simp only [Operator.chars] at h
    obtain ⟨rfl, -⟩ := List.cons_prefix_cons.1 h
    exact .inr (.inl (by decide))
  -- the other spellings are words
  all_goals
    simp only [Operator.chars] at h
    obtain ⟨rfl, -⟩ := List.cons_prefix_cons.1 h
    exact .inl (by decide)

theorem operator?_isSome_iff_of_not_isLetter {c : Char} {r : List Char}
    (hc : isLetter c = false) :
    (operator? (c :: r)).isSome ↔ c ∈ ['+', '-', '*', '/', '^'] ∨ (c = '<' ∧ r.head? = some '-') := by
  rw [← Option.ne_none_iff_isSome, Ne, operator?_eq_none_iff]
  simp only [not_forall, not_not]
  constructor
  · rintro ⟨op, hop⟩
    rcases head_of_chars_prefix hop with h | h
    · rw [hc] at h
      cases h
    · exact h
  · rintro (h | ⟨rfl, hr⟩)
    · simp only [List.mem_cons, List.not_mem_nil, or_false] at h
      rcases h with rfl | rfl | rfl | rfl | rfl
      · exact ⟨.plus, by simp [Operator.chars]⟩
      · exact ⟨.minus, by simp [Operator.chars]⟩
      · exact ⟨.star, by simp [Operator.chars]⟩
      · exact ⟨.slash, by simp [Operator.chars]⟩
      · exact ⟨.caret, by simp [Operator.chars]⟩
    · obtain ⟨d, r', rfl, rfl⟩ : ∃ d r', r = d :: r' ∧ d = '-' := by
        cases r with
        | nil => cases hr
        | cons d r' => exact ⟨d, r', rfl, Option.some.inj hr⟩
      exact ⟨.assign, by simp [Operator.chars]⟩

/-! ## Where a token can start -/

/-- Whether a token can start at `c`, followed by `r`: at a parenthesis, a digit, a blank, an
ASCII letter, one of `+ - * / ^`, or `<` before `-`. -/
def CanStart (c : Char) (r : List Char) : Prop :=
  c = '(' ∨ c = ')' ∨ isDigit c = true ∨ Text.isBlank c = true ∨ isLetter c = true ∨
    c ∈ ['+', '-', '*', '/', '^'] ∨ (c = '<' ∧ r.head? = some '-')

/-- A number out of range at the front of `cs`, with the byte length of its literal: a prefixed
literal whose digits need more than 32 bits, or a decimal one above `2 ^ 31 - 1`. -/
inductive Overflows (cs : List Char) : Nat → Prop
  | prefixed {letter : Char} {radix : Radix} {ds rest : List Char} :
      PrefixedAt cs letter radix ds rest → 2 ^ 32 ≤ radix.valueOf ds →
      Overflows cs (String.ofList ('0' :: letter :: ds)).utf8ByteSize
  | decimal {ds rest : List Char} :
      DecimalAt cs ds rest → 2 ^ 31 ≤ Radix.decimal.valueOf ds →
      Overflows cs (String.ofList ds).utf8ByteSize

theorem Overflows.head {cs : List Char} {n : Nat} (h : Overflows cs n) :
    ∃ c r, cs = c :: r ∧ isDigit c = true := by
  cases h with
  | prefixed hp => exact ⟨_, _, hp.split, by decide⟩
  | decimal hd =>
    obtain ⟨d, ds', hds⟩ := List.exists_cons_of_ne_nil hd.nonempty
    exact ⟨d, ds' ++ _, by rw [hd.split, hds, List.cons_append], hd.run.all d (by simp [hds])⟩

/-! ## When the reading fails -/

theorem next_eq_error_iff_of_isDigit {c : Char} {r : List Char} (hc : isDigit c = true)
    {n : Nat} : next (c :: r) = .error n ↔ Overflows (c :: r) n := by
  have hmap : next (c :: r) = .error n ↔ (number c r).map view = .error n := by
    rw [next_of_isDigit hc]
    cases number c r <;> simp [Except.map]
  rw [hmap]
  constructor
  · intro h
    rcases forms_of_isDigit (r := r) hc with ⟨_, _, _, _, hp⟩ | ⟨_, _, _, hp⟩ | ⟨_, _, hd⟩
    · rw [number_view_of_prefixedAt hp] at h
      split at h
      · cases h
      · cases h
        exact .prefixed hp (by omega)
    · rw [number_view_of_pointedAt hp] at h
      cases h
    · rw [number_view_of_decimalAt hd] at h
      split at h
      · cases h
      · cases h
        exact .decimal hd (by omega)
  · rintro (⟨hp, hv⟩ | ⟨hd, hv⟩)
    · rw [number_view_of_prefixedAt hp, if_neg (Nat.not_lt.2 hv)]
    · rw [number_view_of_decimalAt hd, if_neg (Nat.not_lt.2 hv)]

theorem next_eq_error_iff_of_not_isDigit {c : Char} {r : List Char} (hc : isDigit c = false)
    {n : Nat} : next (c :: r) = .error n ↔ ¬ CanStart c r ∧ n = c.utf8Size := by
  rw [next]
  -- each branch that reads a token is a way a token can start
  by_cases hopen : c = '('
  · rw [if_pos hopen]
    exact iff_of_false (by simp) fun h => h.1 (.inl hopen)
  rw [if_neg hopen]
  by_cases hclose : c = ')'
  · rw [if_pos hclose]
    exact iff_of_false (by simp) fun h => h.1 (.inr (.inl hclose))
  rw [if_neg hclose, if_neg (by simp [hc])]
  by_cases hblank : Text.isBlank c = true
  · rw [if_pos hblank]
    exact iff_of_false (by simp) fun h => h.1 (.inr (.inr (.inr (.inl hblank))))
  rw [if_neg hblank]
  by_cases hletter : isLetter c = true
  · refine iff_of_false ?_ fun h => h.1 (.inr (.inr (.inr (.inr (.inl hletter)))))
    cases operator? (c :: r) <;> simp [hletter]
  have hop := operator?_isSome_iff_of_not_isLetter (r := r) (Bool.eq_false_iff.2 hletter)
  cases hsome : operator? (c :: r) with
  | some l =>
    simp only [hsome, Option.isSome_some, true_iff] at hop
    exact iff_of_false (by simp) fun h => h.1 (.inr (.inr (.inr (.inr (.inr hop)))))
  | none =>
    simp only [hsome, Option.isSome_none, Bool.false_eq_true, false_iff] at hop
    have hnot : ¬ CanStart c r := by
      rintro (h | h | h | h | h | h)
      · exact hopen h
      · exact hclose h
      · rw [hc] at h
        cases h
      · exact hblank h
      · exact hletter h
      · exact hop h
    dsimp only
    rw [if_neg hletter, Except.error.injEq]
    exact ⟨fun h => ⟨hnot, h.symm⟩, fun h => h.2.symm⟩

theorem next_eq_error_iff (cs : List Char) (n : Nat) :
    next cs = .error n ↔
      Overflows cs n ∨ ∃ c r, cs = c :: r ∧ ¬ CanStart c r ∧ n = c.utf8Size := by
  cases cs with
  | nil =>
    -- nothing overflows at the end of a line, and nothing fails there
    refine iff_of_false (by simp [next]) ?_
    rintro (h | ⟨c, r, h, -⟩)
    · obtain ⟨_, _, h, -⟩ := h.head
      cases h
    · cases h
  | cons c r =>
    cases hc : isDigit c with
    | true =>
      rw [next_eq_error_iff_of_isDigit hc]
      have hstart : CanStart c r := .inr (.inr (.inl hc))
      constructor
      · exact .inl
      · rintro (h | ⟨c', r', heq, hnot, -⟩)
        · exact h
        · obtain ⟨rfl, rfl⟩ := List.cons.inj heq
          exact absurd hstart hnot
    | false =>
      rw [next_eq_error_iff_of_not_isDigit hc]
      constructor
      · rintro ⟨hnot, rfl⟩
        exact .inr ⟨c, r, rfl, hnot, rfl⟩
      · rintro (h | ⟨c', r', heq, hnot, hn⟩)
        · obtain ⟨c', r', heq, hdigit⟩ := h.head
          obtain ⟨rfl, rfl⟩ := List.cons.inj heq
          rw [hc] at hdigit
          cases hdigit
        · obtain ⟨rfl, rfl⟩ := List.cons.inj heq
          exact ⟨hnot, hn⟩

end Lexeme

/-! ## Calls that fail -/

namespace Lexer

open Lexeme

theorem nextToken_fst_eq_error_iff (lx : Lexer) (e : LexError) :
    lx.nextToken.1 = .error e ↔ e.position = lx.offset ∧ next lx.rest = .error e.length := by
  rw [nextToken]
  split
  · rename_i length hnext
    simp only [Except.error.injEq, hnext]
    constructor
    · rintro rfl
      exact ⟨rfl, rfl⟩
    · rintro ⟨hpos, rfl⟩
      rw [← hpos]
  · rename_i hnext
    simp [hnext]
  · rename_i l hnext
    simp [hnext]

theorem nextToken_of_fst_eq_error {lx : Lexer} {e : LexError} (h : lx.nextToken.1 = .error e) :
    lx.nextToken = (.error e, lx) := by
  obtain ⟨hpos, hnext⟩ := (nextToken_fst_eq_error_iff lx e).1 h
  rw [nextToken_of_error hnext, ← hpos]

end Lexer

/-- When a call of the lexer fails. It fails exactly at a number out of range, with an error as
long as the number's literal, or at a character where no token can start, with an error as long
as the character's encoding; either way the error stands at the cursor. The cursor then stays,
so every later call gives the same error. -/
theorem nextToken_fails_iff (lx : Lexer) (e : LexError) :
    (lx.nextToken.1 = .error e ↔ e.position = lx.offset ∧
      (Lexeme.Overflows lx.rest e.length ∨
        ∃ c r, lx.rest = c :: r ∧ ¬ Lexeme.CanStart c r ∧ e.length = c.utf8Size)) ∧
    (lx.nextToken.1 = .error e →
      lx.nextToken.2 = lx ∧ ∀ n, lx.calls n = List.replicate n (.error e)) := by
  refine ⟨?_, fun h => ?_⟩
  · rw [Lexer.nextToken_fst_eq_error_iff, Lexeme.next_eq_error_iff]
  · have hstay := Lexer.nextToken_of_fst_eq_error h
    exact ⟨by rw [hstay], Lexer.calls_of_stays hstay⟩

end Calculator
