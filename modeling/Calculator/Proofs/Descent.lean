import Calculator.Proofs.Grammar

/-! # The parser as a cursor, and why it stops

The parser keeps the whole token vector of a line, which ends in the end token, and a cursor
`pos` into it. `peek` reads the token at the cursor, or an end token at the line's length once
the cursor is past the vector; `bump` moves the cursor on by one; blanks are skipped by moving
over them wherever a method looks for a token. The methods call one another around the cycle
expression → assignment → additive → multiplicative → power → unary → primary → expression,
and the three binary methods call themselves after their operator. Nothing in these calls gets
structurally smaller, so here every call spends one unit of a budget (`fuel`), and a call that
finds the budget spent gives `none`.

* `call_advances`: a method that succeeds leaves the cursor further on than it found it, and
  never past an end token of the vector. The cursor moves only over blanks, which stop at an
  end token, and over a token that `peek` has just seen is not the end.
* `call_halts`: from a position no further than an end token `w`, a method returns within
  `7 * (w - pos) + rank` calls. A call at the same position goes down a rank, and a call that
  goes up (a binary method calling itself, `primary` calling `expression`) comes after the
  cursor has moved: the pair (tokens left, rank) falls on every call.
* `parse_halts`: so the parse of every token vector that ends in an end token returns.
-/

namespace Calculator

set_option autoImplicit false

/-! ## The machine -/

/-- The parser's methods, one per rule, with `expression` apart from `assignment`: it skips the
blanks at the cursor and calls `assignment`, which reads `ident "<-" additive | additive`. -/
inductive Method where
  | expression
  | assignment
  | tier (b : Tier)
  | unary
  | primary
  deriving DecidableEq, Repr

namespace Method

/-- The method a binary method reads its operands with. -/
def operand : Tier → Method
  | .additive => .tier .multiplicative
  | .multiplicative => .tier .power
  | .power => .unary

/-- A method's place among the calls made on one position: a method calls lower ones without
moving the cursor. -/
def rank : Method → Nat
  | .expression => 6
  | .assignment => 5
  | .tier b => (Level.tier b).rank
  | .unary => 1
  | .primary => 0

theorem rank_operand (b : Tier) : (operand b).rank + 1 = (tier b).rank := by
  cases b <;> rfl

end Method

namespace Descent

variable (v : List Token) (stop : Nat)

/-- The token at a position, or past the vector an end token at the line's length `stop`. -/
def peek (pos : Nat) : Token :=
  v[pos]?.getD ⟨.endOfInput, "", stop⟩

/-- The first position from `pos` on whose token is not a blank: where skipping the blanks at
the cursor leaves it. -/
def skip (pos : Nat) : Nat :=
  pos + (v.drop pos).findIdx fun t => !t.kind.isBlank

/-- A call of a method at a position, with `fuel` calls left: `none` once they run out, else
the method's tree and the position it leaves the cursor at, or its error. -/
def call : Nat → Method → Nat → Option (Except ParseError (Expr × Nat))
  | 0, _, _ => none
  | fuel + 1, .expression, pos => call fuel .assignment (skip v pos)
  | fuel + 1, .assignment, pos =>
    -- without a name and an arrow after it, the cursor goes back to `pos`
    match (peek v stop pos).kind, (peek v stop (skip v (pos + 1))).kind with
    | .ident, .operator .assign =>
      (call fuel (.tier .additive) (skip v (skip v (pos + 1) + 1))).map
        (Except.map fun r => (.assign (peek v stop pos).literal r.1, r.2))
    | _, _ => call fuel (.tier .additive) pos
  | fuel + 1, .tier b, pos =>
    match call fuel (Method.operand b) pos with
    | some (.ok (left, q)) =>
      match b.opOf (peek v stop (skip v q)).kind with
      | some op =>
        (call fuel (.tier b) (skip v (skip v q + 1))).map
          (Except.map fun r => (.binary op left r.1, r.2))
      | none => some (.ok (left, skip v q))
    | other => other
  | fuel + 1, .unary, pos =>
    match (peek v stop (skip v pos)).kind with
    | .operator o =>
      match unaryOp? o with
      | some op =>
        (call fuel .primary (skip v (skip v pos + 1))).map
          (Except.map fun r => (.unary op r.1, r.2))
      | none => some (.error (.grammar (.unexpectedOperator o) (peek v stop (skip v pos)).span))
    | _ => call fuel .primary (skip v pos)
  | fuel + 1, .primary, pos =>
    match (peek v stop (skip v pos)).kind with
    | .openParen =>
      match call fuel .expression (skip v pos + 1) with
      | some (.ok (inner, q)) =>
        if (peek v stop (skip v q)).kind.isClose then some (.ok (inner, skip v q + 1))
        else some (.error (.grammar .expectedClose (peek v stop (skip v q)).span))
      | other => other
    | .ident => some (.ok (.var (peek v stop (skip v pos)).literal, skip v pos + 1))
    | .integer value _ => some (.ok (.lit (.int value), skip v pos + 1))
    | .float value => some (.ok (.lit (.float value), skip v pos + 1))
    | .endOfInput => some (.error (.grammar .unexpectedEnd (peek v stop (skip v pos)).span))
    | _ => some (.error (.grammar .notLiteral (peek v stop (skip v pos)).span))

/-- The parse of a drained vector: an expression, then nothing but blanks before an end token. -/
def parse (fuel : Nat) : Option (Except ParseError Expr) :=
  match call v stop fuel .expression 0 with
  | none => none
  | some (.error e) => some (.error e)
  | some (.ok (root, q)) =>
    match (peek v stop (skip v q)).kind with
    | .endOfInput => some (.ok root)
    | _ => some (.error (.grammar .inputLeft (peek v stop (skip v q)).span))

/-! ## The cursor -/

theorem peek_of_lt {pos : Nat} (h : pos < v.length) : peek v stop pos = v[pos] := by
  simp [peek, h]

theorem peek_of_le {pos : Nat} (h : v.length ≤ pos) :
    peek v stop pos = ⟨.endOfInput, "", stop⟩ := by
  simp [peek, h]

theorem le_skip (pos : Nat) : pos ≤ skip v pos :=
  Nat.le_add_right _ _

theorem skip_le_length {pos : Nat} (h : pos ≤ v.length) : skip v pos ≤ v.length := by
  have := @List.findIdx_le_length Token (fun t => !t.kind.isBlank) (v.drop pos)
  simp only [List.length_drop] at this
  simp only [skip]
  omega

theorem skip_of_not_blank {pos : Nat} (h : (peek v stop pos).kind.isBlank = false) :
    skip v pos = pos := by
  by_cases hlt : pos < v.length
  · rw [peek_of_lt v stop hlt] at h
    rw [skip, List.drop_eq_getElem_cons hlt, List.findIdx_cons]
    simp [h]
  · simp [skip, List.drop_of_length_le (Nat.le_of_not_lt hlt)]

theorem peek_skip_not_blank (pos : Nat) : (peek v stop (skip v pos)).kind.isBlank = false := by
  by_cases hin : (v.drop pos).findIdx (fun t => !t.kind.isBlank) < (v.drop pos).length
  · have hi := List.findIdx_getElem (w := hin)
    have hlt : skip v pos < v.length := by
      simp only [List.length_drop] at hin
      simp only [skip]
      omega
    rw [peek_of_lt v stop hlt]
    simpa [skip] using hi
  · have hle : v.length ≤ skip v pos := by
      simp only [List.length_drop] at hin
      simp only [skip]
      omega
    rw [peek_of_le v stop hle]
    rfl

theorem skip_skip (pos : Nat) : skip v (skip v pos) = skip v pos :=
  skip_of_not_blank v 0 (peek_skip_not_blank v 0 pos)

theorem skip_le {w pos : Nat} (hw : (peek v stop w).kind = .endOfInput) (h : pos ≤ w) :
    skip v pos ≤ w := by
  by_cases hwl : w < v.length
  · apply Nat.le_of_not_lt
    intro hlt
    have hi : w - pos < (v.drop pos).findIdx (fun t => !t.kind.isBlank) := by
      simp only [skip] at hlt
      omega
    have hb := List.not_of_lt_findIdx hi
    rw [peek_of_lt v stop hwl] at hw
    simp only [List.getElem_drop, Nat.add_sub_cancel' h, hw] at hb
    cases hb
  · by_cases hp : pos ≤ v.length
    · have := skip_le_length v hp
      omega
    · simp [skip, List.drop_of_length_le (Nat.le_of_not_le hp), h]

theorem lt_of_kind_ne {w p : Nat} (hw : (peek v stop w).kind = .endOfInput) (h : p ≤ w)
    (hk : (peek v stop p).kind ≠ .endOfInput) : p < w :=
  Nat.lt_of_le_of_ne h fun e => hk (e ▸ hw)

theorem skip_succ_le {w p : Nat} (hw : (peek v stop w).kind = .endOfInput) (h : p ≤ w)
    (hk : (peek v stop p).kind ≠ .endOfInput) : skip v (p + 1) ≤ w :=
  skip_le v stop hw (lt_of_kind_ne v stop hw h hk)

theorem lt_skip_succ {w pos : Nat} (hw : (peek v stop w).kind = .endOfInput) (h : pos ≤ w)
    (hk : (peek v stop (skip v pos)).kind ≠ .endOfInput) :
    pos < skip v pos + 1 ∧ skip v pos + 1 ≤ w :=
  ⟨Nat.lt_succ_of_le (le_skip v pos), lt_of_kind_ne v stop hw (skip_le v stop hw h) hk⟩

theorem wrap_eq_some_ok {r : Option (Except ParseError (Expr × Nat))} {g : Expr → Expr}
    {t : Expr} {q : Nat} (h : r.map (Except.map fun a => (g a.1, a.2)) = some (.ok (t, q))) :
    ∃ t', r = some (.ok (t', q)) := by
  rcases r with _ | _ | ⟨t', q'⟩
  · cases h
  · cases h
  · cases h
    exact ⟨t', rfl⟩

/-! ## Where the cursor goes -/

variable {v stop}

/-- A method that succeeds from a position no further than an end token `w` leaves the cursor
further on, and not past `w`. -/
theorem call_advances {w : Nat} (hw : (peek v stop w).kind = .endOfInput) :
    ∀ {fuel : Nat} {m : Method} {pos : Nat} {t : Expr} {q : Nat}, pos ≤ w →
      call v stop fuel m pos = some (.ok (t, q)) → pos < q ∧ q ≤ w := by
  intro fuel
  induction fuel with
  | zero =>
    intro m pos t q _ h
    cases h
  | succ fuel ih =>
    intro m pos t q hp h
    have hs := skip_le v stop hw hp
    have := le_skip v pos
    cases m with
    | expression =>
      rw [call] at h
      have := ih hs h
      omega
    | assignment =>
      rw [call] at h
      split at h
      · rename_i hx ha
        have h1 := skip_succ_le v stop hw hp (by simp [hx])
        have h2 := skip_succ_le v stop hw h1 (by simp [ha])
        obtain ⟨t', hr⟩ := wrap_eq_some_ok h
        have := ih h2 hr
        have := le_skip v (pos + 1)
        have := le_skip v (skip v (pos + 1) + 1)
        omega
      · exact ih hp h
    | tier b =>
      rw [call] at h
      rcases hl : call v stop fuel (Method.operand b) pos with _ | _ | ⟨left, q1⟩
      · rw [hl] at h
        cases h
      · rw [hl] at h
        cases h
      · rw [hl] at h
        obtain ⟨hq1, hq1w⟩ := ih hp hl
        have hs1 := skip_le v stop hw hq1w
        have := le_skip v q1
        simp only at h
        split at h
        · rename_i op hop
          obtain ⟨o, ho, -⟩ := (Tier.opOf_eq_some_iff b _ op).1 hop
          have h1 := skip_succ_le v stop hw hs1 (by simp [ho])
          obtain ⟨t', hr⟩ := wrap_eq_some_ok h
          have := ih h1 hr
          have := le_skip v (skip v q1 + 1)
          omega
        · cases h
          omega
    | unary =>
      rw [call] at h
      split at h
      · rename_i o ho
        split at h
        · have h1 := skip_succ_le v stop hw hs (by simp [ho])
          obtain ⟨t', hr⟩ := wrap_eq_some_ok h
          have := ih h1 hr
          have := le_skip v (skip v pos + 1)
          omega
        · cases h
      · have := ih hs h
        omega
    | primary =>
      rw [call] at h
      split at h
      · rename_i hk
        have h1 := lt_of_kind_ne v stop hw hs (by simp [hk])
        rcases hi : call v stop fuel .expression (skip v pos + 1) with _ | _ | ⟨inner, q1⟩
        · rw [hi] at h
          cases h
        · rw [hi] at h
          cases h
        · rw [hi] at h
          obtain ⟨hq1, hq1w⟩ := ih h1 hi
          simp only at h
          split at h
          · rename_i hc
            cases h
            -- the closing parenthesis read after the inner expression is not the end
            have := lt_skip_succ v stop hw hq1w (by intro he; simp [he, TokenKind.isClose] at hc)
            omega
          · cases h
      · rename_i hk
        cases h
        exact lt_skip_succ v stop hw hp (by simp [hk])
      · rename_i value radix hk
        cases h
        exact lt_skip_succ v stop hw hp (by simp [hk])
      · rename_i value hk
        cases h
        exact lt_skip_succ v stop hw hp (by simp [hk])
      · cases h
      · cases h

/-! ## Why it stops -/

/-- From a position no further than an end token `w`, a method returns within
`7 * (w - pos) + rank` calls. -/
theorem call_halts {w : Nat} (hw : (peek v stop w).kind = .endOfInput) :
    ∀ {fuel : Nat} {m : Method} {pos : Nat}, pos ≤ w → 7 * (w - pos) + m.rank < fuel →
      (call v stop fuel m pos).isSome := by
  intro fuel
  induction fuel with
  | zero =>
    intro m pos _ hf
    omega
  | succ fuel ih =>
    intro m pos hp hf
    have hs := skip_le v stop hw hp
    have := le_skip v pos
    cases m with
    | expression =>
      rw [call]
      exact ih hs (by simp only [Method.rank] at hf ⊢; omega)
    | assignment =>
      rw [call]
      simp only [Method.rank] at hf
      split
      · rename_i hx ha
        have h1 := skip_succ_le v stop hw hp (by simp [hx])
        have h2 := skip_succ_le v stop hw h1 (by simp [ha])
        have := le_skip v (pos + 1)
        have := le_skip v (skip v (pos + 1) + 1)
        rw [Option.isSome_map]
        exact ih h2 (by simp only [Method.rank, Level.rank]; omega)
      · exact ih hp (by simp only [Method.rank, Level.rank]; omega)
    | tier b =>
      rw [call]
      have hrank := Method.rank_operand b
      -- the operand is read at the same position, a rank lower
      obtain ⟨r, hl⟩ := Option.isSome_iff_exists.1 (ih (m := Method.operand b) hp (by omega))
      rw [hl]
      rcases r with _ | ⟨left, q1⟩
      · rfl
      · obtain ⟨hq1, hq1w⟩ := call_advances hw hp hl
        have hs1 := skip_le v stop hw hq1w
        have := le_skip v q1
        simp only
        split
        · rename_i op hop
          obtain ⟨o, ho, -⟩ := (Tier.opOf_eq_some_iff b _ op).1 hop
          have h1 := skip_succ_le v stop hw hs1 (by simp [ho])
          have := le_skip v (skip v q1 + 1)
          rw [Option.isSome_map]
          exact ih h1 (by omega)
        · rfl
    | unary =>
      rw [call]
      simp only [Method.rank] at hf
      split
      · rename_i o ho
        split
        · have h1 := skip_succ_le v stop hw hs (by simp [ho])
          have := le_skip v (skip v pos + 1)
          rw [Option.isSome_map]
          exact ih h1 (by simp only [Method.rank]; omega)
        · rfl
      · exact ih hs (by simp only [Method.rank]; omega)
    | primary =>
      rw [call]
      simp only [Method.rank] at hf
      split
      · rename_i hk
        have h1 := lt_of_kind_ne v stop hw hs (by simp [hk])
        -- the inner expression starts past the parenthesis, so it may rank higher
        obtain ⟨r, hi⟩ :=
          Option.isSome_iff_exists.1 (ih (m := .expression) h1 (by simp only [Method.rank]; omega))
        rw [hi]
        rcases r with _ | ⟨inner, q1⟩
        · rfl
        · simp only
          split <;> rfl
      all_goals rfl

/-- The parser stops on every token vector whose last token is an end token, as the drain of a
line builds it. From a position no further than that token, every method returns within
`7 * (tokens left) + rank` calls: each call lowers the pair (tokens left, rank) in the order
that compares tokens left first. What a method returns leaves the cursor further on and never
past the end token, so `peek` reads inside the vector. The parse, an expression from the
start, returns within `7 * length + 7` calls. -/
theorem parse_halts {pre : List Token} {e : Token} (he : e.kind = .endOfInput) (stop : Nat) :
    (∀ fuel, 7 * (pre ++ [e]).length + 6 < fuel → ∃ r, parse (pre ++ [e]) stop fuel = some r) ∧
    (∀ (m : Method) (pos fuel : Nat), pos ≤ pre.length →
      7 * ((pre ++ [e]).length - pos) + m.rank < fuel →
        ∃ r, call (pre ++ [e]) stop fuel m pos = some r) ∧
    (∀ (m : Method) (pos fuel : Nat) (t : Expr) (q : Nat), pos ≤ pre.length →
      call (pre ++ [e]) stop fuel m pos = some (.ok (t, q)) → pos < q ∧ q ≤ pre.length) := by
  have hw : (peek (pre ++ [e]) stop pre.length).kind = .endOfInput := by
    rw [peek_of_lt _ _ (by simp)]
    simpa using he
  have hcalls : ∀ (m : Method) (pos fuel : Nat), pos ≤ pre.length →
      7 * ((pre ++ [e]).length - pos) + m.rank < fuel →
        ∃ r, call (pre ++ [e]) stop fuel m pos = some r := by
    intro m pos fuel hp hf
    apply Option.isSome_iff_exists.1
    apply call_halts hw hp
    simp only [List.length_append, List.length_singleton] at hf
    omega
  refine ⟨fun fuel hf => ?_, hcalls, fun m pos fuel t q hp h => call_advances hw hp h⟩
  obtain ⟨r, hr⟩ := hcalls .expression 0 fuel (Nat.zero_le _) (by simpa [Method.rank] using hf)
  rw [parse, hr]
  rcases r with err | ⟨root, q⟩
  · exact ⟨_, rfl⟩
  · simp only
    split <;> exact ⟨_, rfl⟩

/-- `parse_halts` on the tokens of `(1)`, followed by the end token at offset three. -/
theorem parse_halts_paren_one :
    ∃ r, parse ([⟨.openParen, "(", 0⟩, ⟨.integer 1 .decimal, "1", 1⟩, ⟨.closeParen, ")", 2⟩] ++
      [⟨.endOfInput, "", 3⟩]) 3 35 = some r :=
  (parse_halts rfl 3).1 35 (by decide)

end Descent

end Calculator
