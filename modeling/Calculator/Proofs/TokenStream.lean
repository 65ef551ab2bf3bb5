import Calculator.Proofs.Tiling
import Calculator.Proofs.Parsing
import Calculator.Command

/-! # The token stream of a line

Three readers go through the tokens of a line: the stream of items (`TokenStream`), the parser,
which reads the whole line before it looks at the grammar (`Token.scanLine`), and the `tokenize`
command. They agree.

* One call of the stream (`TokenStream.next_of_token`, `next_of_end`, `next_of_error`,
  `next_of_failed`): a token is passed on; the end of the line gives nothing; an error is passed
  on once, and every later call gives nothing.
* The run lemma (`TokenStream.calls_scan`): from a cursor, the stream gives the items of the
  reading from there (`Token.items`), then nothing on every further call. The cursor itself would
  fail again forever after an error; the stream is finite all the same.
* The grammar never fails with a lexical error (`Level.run_ne_lexical`), so a line fails to
  parse with a lexical error exactly when its reading stops at one (`Expr.parse_eq_lexical_iff`).
* From the start of a line: the lexer's calls (`Lexer.calls_new`), the stream's
  (`TokenStream.calls_new`) and what `tokenize` prints (`Command.outcome_tokenize`).
-/

namespace Calculator

set_option autoImplicit false

/-- The items of a reading: each token read, then the error that stopped it, if one did. -/
def Token.items (r : List Token × Option LexError) : List (Except LexError Token) :=
  r.1.map .ok ++ r.2.toList.map .error

@[simp] theorem Token.items_cons (t : Token) (ts : List Token) (err : Option LexError) :
    Token.items (t :: ts, err) = .ok t :: Token.items (ts, err) := rfl

theorem Token.Tiles.kind_ne : ∀ {offset : Nat} {ts : List Token}, Token.Tiles offset ts →
    ∀ t ∈ ts, t.kind ≠ .endOfInput
  | _, [], _, _, ht => by simp at ht
  | _, u :: ts, ⟨_, hu, _, h⟩, t, ht => by
    rcases List.mem_cons.1 ht with rfl | ht
    · exact hu
    · exact h.kind_ne t ht

/-! ## One call of the stream -/

namespace TokenStream

theorem next_of_failed (lx : Lexer) : (⟨lx, true⟩ : TokenStream).next = (none, ⟨lx, true⟩) := rfl

variable {lx lx' : Lexer}

theorem next_of_token {t : Token} (h : lx.nextToken = (.ok t, lx')) (hk : t.kind ≠ .endOfInput) :
    (⟨lx, false⟩ : TokenStream).next = (some (.ok t), ⟨lx', false⟩) := by
  -- the end-of-line branch of the match is ruled out by `hk`
  simp only [next, Bool.false_eq_true, if_false, h]

theorem next_of_end {t : Token} (h : lx.nextToken = (.ok t, lx')) (hk : t.kind = .endOfInput) :
    (⟨lx, false⟩ : TokenStream).next = (none, ⟨lx', false⟩) := by
  simp only [next, Bool.false_eq_true, if_false, h, hk]

theorem next_of_error {e : LexError} (h : lx.nextToken = (.error e, lx')) :
    (⟨lx, false⟩ : TokenStream).next = (some (.error e), ⟨lx', true⟩) := by
  simp only [next, Bool.false_eq_true, if_false, h]

theorem calls_of_stays {st : TokenStream} (h : st.next = (none, st)) :
    ∀ n, st.calls n = List.replicate n none
  | 0 => rfl
  | n + 1 => by
    rw [calls, h, calls_of_stays h n]
    rfl

/-- The run lemma: from a cursor, the stream gives the items of the reading from there, then
nothing. The recursion follows the reading, on the characters left. -/
theorem calls_scan (lx : Lexer) (n : Nat) :
    (⟨lx, false⟩ : TokenStream).calls ((Token.items (Token.scan lx.offset lx.rest)).length + n) =
      (Token.items (Token.scan lx.offset lx.rest)).map some ++ List.replicate n none :=
  match hn : Lexeme.next lx.rest with
  | .error length => by
    have hitems : Token.items ([], some ⟨lx.offset, length⟩) = [.error ⟨lx.offset, length⟩] := rfl
    rw [Token.scan_of_error hn, hitems, List.length_singleton, Nat.add_comm, calls,
      next_of_error (Lexer.nextToken_of_error hn), calls_of_stays (next_of_failed lx) n]
    rfl
  | .ok none => by
    rw [Token.scan_of_none hn]
    simpa [Token.items] using
      calls_of_stays (next_of_end (Lexer.nextToken_of_none hn) rfl) n
  | .ok (some l) => by
    have ih := calls_scan ⟨lx.offset + (String.ofList l.taken).utf8ByteSize, l.left⟩ n
    rw [Token.scan_of_some hn, Token.items_cons, List.length_cons,
      show ∀ k, k + 1 + n = (k + n) + 1 from fun k => by omega, calls,
      next_of_token (Lexer.nextToken_of_some hn) (Lexeme.next_kind_ne hn)]
    simp only
    rw [ih]
    rfl
termination_by lx.rest.length
decreasing_by exact l.shorter

end TokenStream

/-! ## Lexical errors come from the lexer only -/

namespace Level

variable (stop : Nat)

/-- The parser never fails with a lexical error at a level, on any tokens. -/
def NoLexical (L : Level) (toks : List Token) : Prop :=
  ∀ e, run stop L toks ≠ .error (.lexical e)

variable {stop}

theorem NoLexical.map {L : Level} {toks : List Token} (h : NoLexical stop L toks)
    (f : Expr × List Token → Expr × List Token) (e : LexError) :
    (run stop L toks).map f ≠ .error (.lexical e) := by
  cases hr : run stop L toks with
  | error e' =>
    intro hm
    cases hm
    exact h e hr
  | ok p => intro hm; cases hm

theorem noLexical_expression {toks : List Token}
    (ih : ∀ toks', toks'.length < toks.length → NoLexical stop (.tier .additive) toks')
    (h : NoLexical stop (.tier .additive) toks) : NoLexical stop .expression toks := by
  by_cases hassign : ∃ x a r, toks = x :: a :: r ∧ x.kind = .ident ∧ a.kind = .operator .assign
  · obtain ⟨x, a, r, rfl, hx, ha⟩ := hassign
    intro e
    rw [run_expression_assign stop hx ha]
    exact (ih r (by simp only [List.length_cons]; omega)).map _ e
  · have hshape : ∀ x a r, toks = x :: a :: r → x.kind = .ident → a.kind ≠ .operator .assign :=
      fun x a r h hxk hak => hassign ⟨x, a, r, h, hxk, hak⟩
    intro e
    rw [run_expression_of_not_assign stop hshape]
    exact h e

theorem noLexical_tier {b : Tier} {toks : List Token}
    (ih : ∀ toks', toks'.length < toks.length → NoLexical stop (.tier b) toks')
    (h : NoLexical stop b.operand toks) : NoLexical stop (.tier b) toks := by
  intro e
  rw [run_tier]
  rcases hop : run stop b.operand toks with e' | ⟨left, rest⟩
  · intro hb
    cases hb
    exact h e hop
  · -- the operand took at least one token, so the tier goes on with fewer
    obtain ⟨d, hsplit, -, -⟩ := run_sound stop hop
    show b.extend stop left rest ≠ _
    cases rest with
    | nil => intro hx; cases hx
    | cons t r =>
      have hshorter : r.length < toks.length := by
        have := List.length_pos_iff.mpr d.yield_ne_nil
        rw [hsplit, List.length_append, List.length_cons]
        omega
      simp only [Tier.extend]
      cases b.opOf t.kind with
      | some op => exact (ih r hshorter).map _ e
      | none => intro hx; cases hx

theorem noLexical_unary {toks : List Token}
    (ih : ∀ toks', toks'.length < toks.length → NoLexical stop .primary toks')
    (h : NoLexical stop .primary toks) : NoLexical stop .unary toks := by
  intro e
  cases toks with
  | nil => rw [run_unary_nil]; exact h e
  | cons t r =>
    by_cases hop : ∃ o, t.kind = .operator o
    · obtain ⟨o, ho⟩ := hop
      cases hu : unaryOp? o with
      | some op =>
        rw [run_unary_operator stop ho hu]
        exact (ih r (by simp)).map _ e
      | none =>
        rw [run_unary_unexpected stop ho hu]
        intro hx
        cases hx
    · rw [run_unary_of_not_operator stop (fun o ho => hop ⟨o, ho⟩)]
      exact h e

theorem noLexical_primary {toks : List Token}
    (ih : ∀ toks', toks'.length < toks.length → NoLexical stop .expression toks') :
    NoLexical stop .primary toks := by
  intro e
  cases toks with
  | nil => rw [run_primary_nil]; intro hx; cases hx
  | cons t r =>
    cases ht : t.kind
    case openParen =>
      rw [run_primary_paren stop ht]
      rcases hin : run stop .expression r with e' | ⟨inner, rest⟩
      · intro hx
        cases hx
        exact ih r (by simp) e hin
      · show closeParen stop inner rest ≠ _
        cases rest with
        | nil => intro hx; cases hx
        | cons c r' =>
          simp only [closeParen]
          split <;> (intro hx; cases hx)
    case ident => rw [run_primary_ident stop ht]; intro hx; cases hx
    case integer value radix => rw [run_primary_integer stop ht]; intro hx; cases hx
    case float value => rw [run_primary_float stop ht]; intro hx; cases hx
    case endOfInput => rw [run_primary_end stop ht]; intro hx; cases hx
    case closeParen => rw [run_primary_not_literal stop (.inl ht)]; intro hx; cases hx
    case blank => rw [run_primary_not_literal stop (.inr (.inl ht))]; intro hx; cases hx
    case operator o =>
      rw [run_primary_not_literal stop (.inr (.inr ⟨o, ht⟩))]
      intro hx
      cases hx

theorem run_ne_lexical (L : Level) (toks : List Token) : NoLexical stop L toks :=
  induction_rules (fun _ => noLexical_expression) (fun _ _ => noLexical_tier)
    (fun _ => noLexical_unary) (fun _ => noLexical_primary) L toks

end Level

theorem Expr.parse_eq_lexical_iff (s : String) (e : LexError) :
    Expr.parse s = .error (.lexical e) ↔ (Token.scanLine s).2 = some e := by
  refine ⟨fun h => ?_, Expr.parse_of_lexError⟩
  cases hlex : (Token.scanLine s).2 with
  | some e' =>
    rw [Expr.parse_of_lexError hlex] at h
    cases h
    rfl
  | none =>
    rw [Expr.parse_of_lexed hlex] at h
    rcases Except.bind_eq_error.1 h with hrun | ⟨⟨tree, rest⟩, -, hwhole⟩
    · exact absurd hrun (Level.run_ne_lexical _ _ e)
    · cases rest <;> cases hwhole

/-! ## Three readers of a line -/

theorem Token.literals_scanLine_of_none {s : String} (h : (Token.scanLine s).2 = none) :
    (Token.literals (Token.scanLine s).1).utf8ByteSize = s.utf8ByteSize := by
  obtain ⟨rest, hcov, hend⟩ := (Lexer.drains_scan (Lexer.new s)).covers
  have hrest : rest = [] := hend h
  subst hrest
  simp only [Lexer.new_offset, Lexer.new_rest, String.ofList_nil, String.append_empty,
    String.ofList_toList] at hcov
  rw [Token.scanLine, hcov]

theorem Token.scanLine_kind_ne (s : String) : ∀ t ∈ (Token.scanLine s).1, t.kind ≠ .endOfInput :=
  (Lexer.drains_scan (Lexer.new s)).tiles.kind_ne

/-- The calls of the lexer from the start of a line: the tokens of the line, then for good the
end token at the line's length, or the error that stopped the reading. -/
theorem Lexer.calls_new (s : String) (n : Nat) :
    (Lexer.new s).calls ((Token.scanLine s).1.length + n) = (Token.scanLine s).1.map .ok ++
      List.replicate n (Lexer.stopAnswer s.utf8ByteSize (Token.scanLine s).2) := by
  have hanswers := (Lexer.drains_scan (Lexer.new s)).answers n
  simp only [Lexer.new_offset, Lexer.new_rest, Nat.zero_add] at hanswers
  rw [← Token.scanLine] at hanswers
  rw [hanswers]
  cases hlex : (Token.scanLine s).2 with
  | some e => rfl
  | none => rw [Token.literals_scanLine_of_none hlex]

theorem TokenStream.calls_new (s : String) (n : Nat) :
    (TokenStream.new s).calls ((Token.items (Token.scanLine s)).length + n) =
      (Token.items (Token.scanLine s)).map some ++ List.replicate n none :=
  TokenStream.calls_scan (Lexer.new s) n

theorem Token.items_getLast?_eq_error_iff (ts : List Token) (err : Option LexError)
    (e : LexError) : (Token.items (ts, err)).getLast? = some (.error e) ↔ err = some e := by
  cases err with
  | some e' => simp [Token.items, List.getLast?_append]
  | none =>
    simp only [Token.items, Option.toList_none, List.map_nil, List.append_nil, reduceCtorEq,
      iff_false]
    intro hx
    obtain ⟨t, -, ht⟩ := List.mem_map.1 (List.mem_of_getLast? hx)
    cases ht

/-- What `tokenize` prints: the tokens of the line, then the end of the line and status `0`,
or status `1` when the reading stopped at an error. -/
theorem Command.outcome_tokenize (stdin : String) (contents : String → Option String)
    (s : String) : Command.outcome stdin contents (.tokenize s) =
      if (Token.scanLine s).2.isSome then ⟨displayLines (Token.scanLine s).1, 1⟩
      else ⟨displayLines (Token.scanLine s).1 ++ "EOF  null\n", 0⟩ := by
  rcases hscan : Token.scanLine s with ⟨ts, _ | e⟩
  · have hend : (Token.endOf s).display ++ "\n" = "EOF  null\n" := rfl
    simp only [Command.outcome, hscan, Option.isSome_none, Bool.false_eq_true, if_false]
    rw [String.append_assoc, hend]
  · simp only [Command.outcome, hscan, Option.isSome_some, if_true]

/-- The stream of a line, the lexer's calls, the `tokenize` command and the parser agree. Let
`ts` be the tokens of a line and `err` the error that stopped the reading, if one did. The calls
of the lexer give the tokens `ts`, none of them the end of the line, then again and again the
end token at the line's length or the error. The stream gives each token of `ts`, then the error
if there is one, then nothing on every further call. The `tokenize` command prints the tokens,
then `EOF  null` with status `0`, or status `1` after an error. The parser fails with
`invalid input at N`, pointing at offset `N` with length zero, for the lexical error at `N`,
exactly when the stream's last item is that error. -/
theorem token_stream_drain_and_tokenize_agree (s : String) :
    ∃ ts err, Token.scanLine s = (ts, err) ∧ (∀ t ∈ ts, t.kind ≠ .endOfInput) ∧
      (∀ n, (Lexer.new s).calls (ts.length + n) =
        ts.map .ok ++ List.replicate n (Lexer.stopAnswer s.utf8ByteSize err)) ∧
      (∀ n, (TokenStream.new s).calls ((Token.items (ts, err)).length + n) =
        (Token.items (ts, err)).map some ++ List.replicate n none) ∧
      (∀ stdin contents, Command.outcome stdin contents (.tokenize s) =
        if err.isSome then ⟨displayLines ts, 1⟩ else ⟨displayLines ts ++ "EOF  null\n", 0⟩) ∧
      ∀ N, (∃ e, Expr.parse s = .error (.lexical e) ∧
          (ParseError.lexical e).reason = "invalid input at " ++ toString N ∧
          (ParseError.lexical e).span = ⟨N, 0⟩ ∧ e.position = N) ↔
        ∃ e, (Token.items (ts, err)).getLast? = some (.error e) ∧ e.position = N := by
  refine ⟨(Token.scanLine s).1, (Token.scanLine s).2, rfl, Token.scanLine_kind_ne s,
    Lexer.calls_new s, TokenStream.calls_new s, fun stdin contents =>
      Command.outcome_tokenize stdin contents s, fun N => ⟨?_, ?_⟩⟩
  · -- a lexical error of the parser is the error of the reading, the stream's last item
    rintro ⟨e, hparse, -, -, rfl⟩
    rw [Expr.parse_eq_lexical_iff] at hparse
    exact ⟨e, (Token.items_getLast?_eq_error_iff _ _ e).2 hparse, rfl⟩
  · rintro ⟨e, hlast, rfl⟩
    rw [Token.items_getLast?_eq_error_iff] at hlast
    exact ⟨e, (Expr.parse_eq_lexical_iff s e).2 hlast, rfl, rfl, rfl⟩

end Calculator
