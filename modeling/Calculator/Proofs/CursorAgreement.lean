import Calculator.Proofs.Descent
import Calculator.Proofs.TokenStream

/-! # The cursor reads what the list parser reads

The parser of `Descent` skips blanks wherever a method looks for a token; `Expr.parse` drops them
all first and reads the rest as a list (`Level.run`). The two agree. A method called at a
position reads the tokens left from there, blanks dropped (`rest`), as the list parser's rule
of its level does, and leaves the cursor where the list parser's tokens left begin
(`call_run`). The one condition is on `assignment`, which looks at the token at the cursor
without skipping blanks: it must be called on a token that is not a blank, as `expression`
calls it.

Past the vector `peek` gives an end token at the line's length, which is where the list parser
points its errors when no token is left. So the drained vector, the end token put after the
line's tokens, reads as the tokens alone (`parse_append_end`), and `parse_scanLine` follows: on
every line that lexes, the cursor parser, given the calls `parse_halts` counts, answers as
`Expr.parse`.
-/

namespace Calculator

set_option autoImplicit false

namespace Method

/-- The rule of the grammar a method reads: `expression` and `assignment` both read the
expression rule. -/
def level : Method → Level
  | .expression | .assignment => .expression
  | .tier b => .tier b
  | .unary => .unary
  | .primary => .primary

theorem level_operand (b : Tier) : (operand b).level = b.operand := by
  cases b <;> rfl

theorem operand_ne_assignment (b : Tier) : operand b ≠ .assignment := by
  cases b <;> simp [operand]

end Method

theorem Tier.opOf_endOfInput (b : Tier) : b.opOf .endOfInput = none := by
  cases b <;> rfl

theorem Token.dropBlanks_dropWhile (l : List Token) :
    Token.dropBlanks (l.dropWhile fun t => t.kind.isBlank) = Token.dropBlanks l := by
  induction l with
  | nil => rfl
  | cons t l ih =>
    cases h : t.kind.isBlank
    · rw [List.dropWhile_cons_of_neg (by simp [h])]
    · rw [List.dropWhile_cons_of_pos (p := fun t : Token => t.kind.isBlank) h, ih]
      simp [Token.dropBlanks, h]

namespace Descent

variable (v : List Token) (stop : Nat)

/-- The tokens from a position on, blanks dropped: what is left for the list parser. -/
def rest (pos : Nat) : List Token :=
  Token.dropBlanks (v.drop pos)

/-- A method's answer, the position it leaves read as the tokens left from there. -/
def view (r : Except ParseError (Expr × Nat)) : Except ParseError (Expr × List Token) :=
  r.map fun a => (a.1, rest v a.2)

/-! ## The tokens left -/

theorem rest_skip (pos : Nat) : rest v (skip v pos) = rest v pos := by
  rw [rest, skip, ← List.drop_drop, ← List.dropWhile_eq_drop_findIdx_not,
    Token.dropBlanks_dropWhile]
  rfl

theorem rest_cases (pos : Nat) :
    (skip v pos < v.length ∧ rest v pos = peek v stop (skip v pos) :: rest v (skip v pos + 1)) ∨
      (rest v pos = [] ∧ peek v stop (skip v pos) = ⟨.endOfInput, "", stop⟩) := by
  rw [← rest_skip v pos]
  by_cases hlt : skip v pos < v.length
  · refine Or.inl ⟨hlt, ?_⟩
    have hb := peek_skip_not_blank v stop pos
    rw [peek_of_lt v stop hlt] at hb ⊢
    rw [rest, rest, List.drop_eq_getElem_cons hlt, Token.dropBlanks,
      List.filter_cons_of_pos (by simp [hb])]
    rfl
  · have hle := Nat.le_of_not_lt hlt
    exact Or.inr ⟨by simp [rest, List.drop_of_length_le hle, Token.dropBlanks],
      peek_of_le v stop hle⟩

theorem view_map (g : Expr → Expr) (r : Except ParseError (Expr × Nat)) :
    view v (r.map fun a => (g a.1, a.2)) = (view v r).map fun p => (g p.1, p.2) := by
  cases r <;> rfl

theorem map_eq_some {α β : Type} {r : Option (Except ParseError α)} {f : α → β}
    {b : Except ParseError β} (h : r.map (Except.map f) = some b) :
    ∃ a, r = some a ∧ b = a.map f := by
  rcases r with _ | a
  · cases h
  · exact ⟨a, rfl, (Option.some.inj h).symm⟩

/-! ## Method by method -/

variable {v stop}

/-- A method called at a position reads what the list parser's rule of its level reads from the
tokens left there, blanks dropped, and leaves the cursor where the list parser's tokens left
begin. `assignment` is called on a token that is not a blank. -/
theorem call_run : ∀ {fuel : Nat} {m : Method} {pos : Nat} {r : Except ParseError (Expr × Nat)},
    call v stop fuel m pos = some r → (m = .assignment → skip v pos = pos) →
      view v r = Level.run stop m.level (rest v pos) := by
  intro fuel
  induction fuel with
  | zero =>
    intro m pos r h
    cases h
  | succ fuel ih =>
    intro m pos r h hm
    cases m with
    | expression =>
      rw [call] at h
      rw [ih h (fun _ => skip_skip v pos), rest_skip]
      rfl
    | assignment =>
      have hpos := hm rfl
      rw [call] at h
      -- the token at `pos` is the first one left, since `pos` is not a blank
      have hfirst := rest_cases v stop pos
      have hsecond := rest_cases v stop (pos + 1)
      rw [hpos] at hfirst
      split at h
      · rename_i hx ha
        have h1 : rest v pos = peek v stop pos :: rest v (pos + 1) := by
          rcases hfirst with ⟨-, h1⟩ | ⟨-, hend⟩
          · exact h1
          · simp [hend] at hx
        have h2 : rest v (pos + 1) =
            peek v stop (skip v (pos + 1)) :: rest v (skip v (pos + 1) + 1) := by
          rcases hsecond with ⟨-, h2⟩ | ⟨-, hend⟩
          · exact h2
          · simp [hend] at ha
        obtain ⟨r', hr', rfl⟩ := map_eq_some h
        rw [view_map, ih hr' (fun h => Method.noConfusion h), rest_skip, h1, h2, Method.level, Method.level,
          Level.run_expression_assign stop hx ha]
      · rename_i hnot
        rw [ih h (fun h => Method.noConfusion h), Method.level, Method.level]
        refine (Level.run_expression_of_not_assign stop fun x a r' hr hx ha => ?_).symm
        rcases hfirst with ⟨-, h1⟩ | ⟨h1, -⟩
        · rw [h1, List.cons.injEq] at hr
          obtain ⟨rfl, hr⟩ := hr
          rcases hsecond with ⟨-, h2⟩ | ⟨h2, -⟩
          · rw [h2, List.cons.injEq] at hr
            obtain ⟨rfl, -⟩ := hr
            exact hnot hx ha
          · rw [h2] at hr
            cases hr
        · rw [h1] at hr
          cases hr
    | tier b =>
      rw [call] at h
      rcases hl : call v stop fuel (Method.operand b) pos with _ | r1
      · rw [hl] at h
        cases h
      rw [hl] at h
      -- the operand reads as the list parser's operand level, whatever it answers
      have hop := ih hl (Method.operand_ne_assignment b).elim
      rw [Method.level_operand] at hop
      rw [Method.level, Level.run_tier, ← hop]
      rcases r1 with e | ⟨left, q⟩
      · obtain rfl := Option.some.inj h
        rfl
      · show view v r = b.extend stop left (rest v q)
        simp only at h
        rcases rest_cases v stop q with ⟨-, hq⟩ | ⟨hq, hend⟩
        · rw [hq]
          split at h
          · rename_i op hop'
            obtain ⟨r', hr', rfl⟩ := map_eq_some h
            rw [view_map, ih hr' (fun h => Method.noConfusion h), rest_skip]
            simp only [Tier.extend, hop']
            rfl
          · rename_i hop'
            obtain rfl := Option.some.inj h
            simp only [Tier.extend, hop']
            show Except.ok (left, rest v (skip v q)) = _
            rw [rest_skip, hq]
        · rw [hend, Tier.opOf_endOfInput] at h
          obtain rfl := Option.some.inj h
          show Except.ok (left, rest v (skip v q)) = _
          rw [rest_skip, hq]
          rfl
    | unary =>
      rw [call] at h
      rcases rest_cases v stop pos with ⟨-, hp⟩ | ⟨hp, hend⟩
      · rw [Method.level, hp]
        split at h
        · rename_i o ho
          split at h
          · rename_i op hop
            obtain ⟨r', hr', rfl⟩ := map_eq_some h
            rw [view_map, ih hr' (fun h => Method.noConfusion h), rest_skip,
              Level.run_unary_operator stop ho hop]
            rfl
          · rename_i hop
            obtain rfl := Option.some.inj h
            rw [Level.run_unary_unexpected stop ho hop]
            rfl
        · rename_i hnot
          rw [ih h (fun h => Method.noConfusion h), rest_skip, hp,
            Level.run_unary_of_not_operator stop (fun o ho => hnot o ho)]
          rfl
      · rw [hend] at h
        rw [ih h (fun h => Method.noConfusion h), rest_skip, hp, Method.level, Level.run_unary_nil]
        rfl
    | primary =>
      rw [call] at h
      rcases rest_cases v stop pos with ⟨-, hp⟩ | ⟨hp, hend⟩
      · rw [Method.level, hp]
        generalize ht : peek v stop (skip v pos) = t at h
        obtain ⟨k, lit, off⟩ := t
        cases k with
        | openParen =>
          rw [Level.run_primary_paren stop rfl]
          simp only at h
          rcases hi : call v stop fuel .expression (skip v pos + 1) with _ | r1
          · rw [hi] at h
            cases h
          rw [hi] at h
          have hin := ih hi (fun h => Method.noConfusion h)
          rw [Method.level] at hin
          rw [← hin]
          rcases r1 with e | ⟨inner, q⟩
          · obtain rfl := Option.some.inj h
            rfl
          · show view v r = closeParen stop inner (rest v q)
            simp only at h
            rcases rest_cases v stop q with ⟨-, hq⟩ | ⟨hq, hc⟩
            · rw [hq]
              split at h
              · rename_i hclose
                obtain rfl := Option.some.inj h
                rw [closeParen, if_pos hclose]
                rfl
              · rename_i hclose
                obtain rfl := Option.some.inj h
                rw [closeParen, if_neg hclose]
                rfl
            · rw [hc] at h
              obtain rfl := Option.some.inj h
              rw [hq]
              rfl
        | ident =>
          obtain rfl := Option.some.inj h
          rw [Level.run_primary_ident stop rfl]
          rfl
        | integer value radix =>
          obtain rfl := Option.some.inj h
          rw [Level.run_primary_integer stop rfl]
          rfl
        | float value =>
          obtain rfl := Option.some.inj h
          rw [Level.run_primary_float stop rfl]
          rfl
        | endOfInput =>
          obtain rfl := Option.some.inj h
          rw [Level.run_primary_end stop rfl]
          rfl
        | closeParen =>
          obtain rfl := Option.some.inj h
          rw [Level.run_primary_not_literal stop (Or.inl rfl)]
          rfl
        | blank =>
          obtain rfl := Option.some.inj h
          rw [Level.run_primary_not_literal stop (Or.inr (Or.inl rfl))]
          rfl
        | operator o =>
          obtain rfl := Option.some.inj h
          rw [Level.run_primary_not_literal stop (Or.inr (Or.inr ⟨o, rfl⟩))]
          rfl
      · rw [hend] at h
        obtain rfl := Option.some.inj h
        rw [Method.level, hp, Level.run_primary_nil]
        rfl

/-! ## The end token of the drained vector -/

variable (v stop)

theorem peek_append_end (pos : Nat) :
    peek (v ++ [⟨.endOfInput, "", stop⟩]) stop pos = peek v stop pos := by
  rcases Nat.lt_trichotomy pos v.length with h | rfl | h
  · rw [peek_of_lt _ _ (by simp; omega), peek_of_lt v stop h, List.getElem_append_left]
  · rw [peek_of_le v stop (Nat.le_refl _), peek_of_lt _ _ (by simp)]
    simp
  · rw [peek_of_le _ _ (by simp; omega), peek_of_le v stop (Nat.le_of_lt h)]

theorem skip_append_end (pos : Nat) :
    skip (v ++ [⟨.endOfInput, "", stop⟩]) pos = skip v pos := by
  by_cases h : pos ≤ v.length
  · simp only [skip, List.drop_append_of_le_length h, List.findIdx_append]
    split
    · rfl
    · have hle := @List.findIdx_le_length Token (fun t => !t.kind.isBlank) (v.drop pos)
      have hend : [(⟨.endOfInput, "", stop⟩ : Token)].findIdx (fun t => !t.kind.isBlank) = 0 :=
        rfl
      rw [hend]
      omega
  · have h1 : (v ++ [(⟨.endOfInput, "", stop⟩ : Token)]).length ≤ pos := by
      simp only [List.length_append, List.length_singleton]
      omega
    simp [skip, List.drop_of_length_le h1, List.drop_of_length_le (Nat.le_of_not_le h)]

theorem call_append_end : ∀ (fuel : Nat) (m : Method) (pos : Nat),
    call (v ++ [⟨.endOfInput, "", stop⟩]) stop fuel m pos = call v stop fuel m pos := by
  intro fuel
  induction fuel with
  | zero => intro m pos; rfl
  | succ fuel ih =>
    intro m pos
    cases m <;> simp only [call, peek_append_end, skip_append_end, ih]

theorem parse_append_end (fuel : Nat) :
    parse (v ++ [⟨.endOfInput, "", stop⟩]) stop fuel = parse v stop fuel := by
  simp only [parse, call_append_end, peek_append_end, skip_append_end]

/-! ## A whole line -/

/-- On every line that lexes, the parser that reads the drained vector (the line's tokens, then
the end token at its length) with a cursor and skips blanks where it stands, given the
`7 * length + 7` calls of `parse_halts`, answers as `Expr.parse`, which drops the blanks first
and reads the rest as a list. -/
theorem parse_scanLine {s : String} (h : (Token.scanLine s).2 = none) {fuel : Nat}
    (hfuel : 7 * ((Token.scanLine s).1 ++ [Token.endOf s]).length + 6 < fuel) :
    parse ((Token.scanLine s).1 ++ [Token.endOf s]) s.utf8ByteSize fuel =
      some (Expr.parse s) := by
  rw [Token.endOf, parse_append_end, Expr.parse_of_lexed h]
  generalize hts : (Token.scanLine s).1 = ts at hfuel
  have hkinds : ∀ t ∈ ts, t.kind ≠ .endOfInput := hts ▸ Token.scanLine_kind_ne s
  have hw : (peek ts s.utf8ByteSize ts.length).kind = .endOfInput := by
    rw [peek_of_le ts _ (Nat.le_refl _)]
  have hbound : 7 * (ts.length - 0) + Method.expression.rank < fuel := by
    simp only [List.length_append, List.length_singleton] at hfuel
    simp only [Method.rank]
    omega
  obtain ⟨r, hr⟩ := Option.isSome_iff_exists.1 (call_halts hw (Nat.zero_le _) hbound)
  have hrun := call_run hr (fun h => Method.noConfusion h)
  rw [Method.level, show rest ts 0 = Token.dropBlanks ts from rfl] at hrun
  rw [parse, hr, ← hrun]
  rcases r with e | ⟨root, q⟩
  · rfl
  · show _ = some (Level.wholeLine (root, rest ts q))
    dsimp only
    rcases rest_cases ts s.utf8ByteSize q with ⟨hlt, hq⟩ | ⟨hq, hend⟩
    · -- a token of the line is left, and it is not the end
      have hk : (peek ts s.utf8ByteSize (skip ts q)).kind ≠ .endOfInput := by
        rw [peek_of_lt _ _ hlt]
        exact hkinds _ (List.getElem_mem hlt)
      rw [hq, Level.wholeLine]
      split
      · rename_i hend
        exact absurd hend hk
      · rfl
    · rw [hq, hend]
      rfl

end Descent

end Calculator
