import Calculator.Proofs.Parsing

/-! # A syntax error names the first token no sentence can take

Tokens are a viable prefix at a level when some continuation makes them a phrase of that level
(`Level.Viable`); at the expression level, these are the beginnings of sentences. The parser
reads one token ahead and never goes back over a token it has taken, so when it fails, it fails
at the first token that no sentence can take after the ones before it.

* Locality (`Level.run_append_of_ok`): what the parser reads at a level depends only on the
  tokens it takes and the one after them, since by `Level.run_eq_ok_iff` it reads a phrase
  exactly when the next token lets the phrase end.
* Where a rule fails (`Level.run_error`): after tokens that are viable at its level, at a token
  (or at the end) where it fails with the same error whatever comes after that token. The proof
  is one lemma per rule along the parser's own recursion (`Level.induction_rules`), through the
  four errors of the rules: `unexpected end of input`, `not a literal expression` and
  `unexpected operator` where an operand is due, and `expected ')'`.
* A whole line (`Expr.parse_error_stops`) adds `input left`, when a whole expression is followed
  by more tokens, and concludes that no sentence begins with the tokens up to the one the error
  names.

`parse_error_at_first_dead_token` says this of a line's tokens followed by its end: the error
names the one token such that the tokens before it are viable and the tokens up to and including
it are not.
-/

namespace Calculator

set_option autoImplicit false

/-! ## Viable prefixes -/

/-- Tokens that some continuation makes the yield of a phrase of a level. -/
def Level.Viable (L : Level) (u : List Token) : Prop :=
  ∃ v, ∃ d : Phrase L, d.yield = u ++ v

/-- A lone name, as a phrase of any level. -/
def Phrase.name (t : Token) (ht : t.kind = .ident) : (L : Level) → Phrase L
  | .expression => .plain (.operand (.operand (.operand (.bare (.ident t ht)))))
  | .tier .additive => .operand (.operand (.operand (.bare (.ident t ht))))
  | .tier .multiplicative => .operand (.operand (.bare (.ident t ht)))
  | .tier .power => .operand (.bare (.ident t ht))
  | .unary => .bare (.ident t ht)
  | .primary => .ident t ht

@[simp] theorem Phrase.yield_name (t : Token) (ht : t.kind = .ident) (L : Level) :
    (Phrase.name t ht L).yield = [t] := by
  cases L with
  | tier b => cases b <;> rfl
  | _ => rfl

theorem Phrase.kind_ne_endOfInput {L : Level} (d : Phrase L) :
    ∀ t ∈ d.yield, t.kind ≠ .endOfInput := by
  induction d with
  | assign x a v hx ha ih =>
    intro t ht
    simp only [yield, List.mem_cons] at ht
    rcases ht with rfl | rfl | ht
    · simp [hx]
    · simp [ha]
    · exact ih t ht
  | plain p ih => exact ih
  | operand p ih => exact ih
  | binary left t o op ht hop right ihl ihr =>
    intro t' ht'
    simp only [yield, List.mem_append, List.mem_cons] at ht'
    rcases ht' with h | rfl | h
    · exact ihl t' h
    · simp [ht]
    · exact ihr t' h
  | bare p ih => exact ih
  | prefixed t o op ht hop p ih =>
    intro t' ht'
    simp only [yield, List.mem_cons] at ht'
    rcases ht' with rfl | h
    · simp [ht]
    · exact ih t' h
  | paren o c inner ho hc ih =>
    intro t ht
    simp only [yield, List.mem_cons, List.mem_append, List.not_mem_nil, or_false] at ht
    rcases ht with rfl | h | rfl
    · simp [ho]
    · exact ih t h
    · simp [hc]
  | ident t ht =>
    intro t' ht'
    rw [yield, List.mem_singleton] at ht'
    simp [ht', ht]
  | integer t value radix ht =>
    intro t' ht'
    rw [yield, List.mem_singleton] at ht'
    simp [ht', ht]
  | float t value ht =>
    intro t' ht'
    rw [yield, List.mem_singleton] at ht'
    simp [ht', ht]

theorem Phrase.viable {L : Level} (d : Phrase L) : L.Viable d.yield :=
  ⟨[], d, by simp⟩

namespace Level

theorem viable_nil (L : Level) : L.Viable [] :=
  ⟨[⟨.ident, "x", 0⟩], Phrase.name ⟨.ident, "x", 0⟩ rfl L, by simp⟩

theorem Viable.of_append {L : Level} {u u' : List Token} (h : L.Viable (u ++ u')) :
    L.Viable u := by
  obtain ⟨v, d, hd⟩ := h
  exact ⟨u' ++ v, d, by rw [hd, List.append_assoc]⟩

theorem Viable.of_take_le {L : Level} {w : List Token} {j k : Nat} (hjk : j ≤ k)
    (h : L.Viable (w.take k)) : L.Viable (w.take j) := by
  have hsplit := List.take_append_drop j (w.take k)
  rw [List.take_take, Nat.min_eq_left hjk] at hsplit
  rw [← hsplit] at h
  exact h.of_append

/-! How the rules put viable prefixes together: the tokens a rule has read, followed by a viable
prefix of the rule it reads next. -/

theorem Viable.plain {u : List Token} (h : (tier .additive).Viable u) :
    Level.expression.Viable u := by
  obtain ⟨v, d, hd⟩ := h
  exact ⟨v, .plain d, hd⟩

theorem Viable.assign {x a : Token} {u : List Token} (hx : x.kind = .ident)
    (ha : a.kind = .operator .assign) (h : (tier .additive).Viable u) :
    Level.expression.Viable (x :: a :: u) := by
  obtain ⟨v, d, hd⟩ := h
  exact ⟨v, .assign x a d hx ha, by simp [Phrase.yield, hd]⟩

theorem Viable.operand {b : Tier} {u : List Token} (h : b.operand.Viable u) :
    (tier b).Viable u := by
  obtain ⟨v, d, hd⟩ := h
  exact ⟨v, .operand d, hd⟩

theorem Viable.binary {b : Tier} (left : Phrase b.operand) {t : Token} {o : Operator}
    {op : BinaryOp} (ht : t.kind = .operator o) (hop : (o, op) ∈ b.ops) {u : List Token}
    (h : (tier b).Viable u) : (tier b).Viable (left.yield ++ t :: u) := by
  obtain ⟨v, d, hd⟩ := h
  exact ⟨v, .binary left t o op ht hop d, by simp [Phrase.yield, hd]⟩

theorem Viable.bare {u : List Token} (h : Level.primary.Viable u) : Level.unary.Viable u := by
  obtain ⟨v, d, hd⟩ := h
  exact ⟨v, .bare d, hd⟩

theorem Viable.prefixed {t : Token} {o : Operator} {op : UnaryOp} (ht : t.kind = .operator o)
    (hop : (o, op) ∈ prefixOps) {u : List Token} (h : Level.primary.Viable u) :
    Level.unary.Viable (t :: u) := by
  obtain ⟨v, d, hd⟩ := h
  exact ⟨v, .prefixed t o op ht hop d, by simp [Phrase.yield, hd]⟩

theorem Viable.paren {o : Token} (ho : o.kind = .openParen) {u : List Token}
    (h : Level.expression.Viable u) : Level.primary.Viable (o :: u) := by
  obtain ⟨v, d, hd⟩ := h
  exact ⟨v ++ [⟨.closeParen, ")", 0⟩], .paren o ⟨.closeParen, ")", 0⟩ d ho rfl,
    by simp [Phrase.yield, hd]⟩

/-! ## Locality -/

variable (stop : Nat)

theorem run_append_of_ok {L : Level} {c rest : List Token} {e : Expr}
    (h : run stop L (c ++ rest) = .ok (e, rest)) (rest' : List Token)
    (hhead : rest'.head? = rest.head?) :
    run stop L (c ++ rest') = .ok (e, rest') := by
  obtain ⟨d, hc, rfl, hend⟩ := run_sound stop h
  rw [List.append_cancel_right hc]
  exact Phrase.run_yield stop d rest' (hend.of_head hhead)

/-! ## Where a rule fails -/

/-- The parser at level `L`, on tokens `pre ++ post`, stops with `err` at the first token of
`post`, or at the end when `post` is empty: the error points there, `pre` is viable at `L`, and
whatever follows that token, the parser fails there with `err`. -/
structure StopsAt (L : Level) (err : ParseError) (pre post : List Token) : Prop where
  span : err.span = (post.head?.map Token.span).getD ⟨stop, 0⟩
  viable : L.Viable pre
  stuck : ∀ t r, post = t :: r → ∀ v, run stop L (pre ++ t :: v) = .error err

/-- Every failure of the parser at a level on some tokens stops at a token. -/
def FailsAtToken (L : Level) (toks : List Token) : Prop :=
  ∀ err, run stop L toks = .error err → ∃ pre post, toks = pre ++ post ∧ StopsAt stop L err pre post

theorem StopsAt.first {L : Level} {t : Token} {r : List Token} {err : ParseError}
    (hspan : err.span = t.span) (h : ∀ v, run stop L (t :: v) = .error err) :
    StopsAt stop L err [] (t :: r) := by
  refine ⟨hspan, viable_nil L, fun t' r' hpost v => ?_⟩
  obtain ⟨rfl, rfl⟩ := List.cons.inj hpost
  exact h v

theorem StopsAt.operand {b : Tier} {err : ParseError} {pre post : List Token}
    (h : StopsAt stop b.operand err pre post) : StopsAt stop (tier b) err pre post := by
  refine ⟨h.span, h.viable.operand, fun t r hpost v => ?_⟩
  rw [run_tier, h.stuck t r hpost v]
  rfl

theorem StopsAt.bare {err : ParseError} {pre post : List Token}
    (hnot : ∀ x ∈ (pre ++ post).head?, ∀ o, x.kind ≠ .operator o)
    (h : StopsAt stop .primary err pre post) : StopsAt stop .unary err pre post := by
  refine ⟨h.span, h.viable.bare, fun t r hpost v => ?_⟩
  -- the tokens begin as `pre ++ post` does, with a token that is no operator
  obtain ⟨x, y, hxy, hx⟩ : ∃ x y, pre ++ t :: v = x :: y ∧ ∀ o, x.kind ≠ .operator o := by
    cases pre with
    | nil => exact ⟨t, v, rfl, hnot t (by simp [hpost])⟩
    | cons p ps => exact ⟨p, ps ++ t :: v, rfl, hnot p (by simp)⟩
  rw [hxy, run_unary_of_not_operator stop hx, ← hxy]
  exact h.stuck t r hpost v

theorem StopsAt.plain {err : ParseError} {pre post : List Token}
    (hshape : ∀ x a r, pre ++ post = x :: a :: r → x.kind = .ident → a.kind ≠ .operator .assign)
    (h : StopsAt stop (tier .additive) err pre post) : StopsAt stop .expression err pre post := by
  refine ⟨h.span, h.viable.plain, fun t r hpost v => ?_⟩
  rw [run_expression_of_not_assign stop, h.stuck t r hpost v]
  intro x a r' hv hx ha
  cases pre with
  | nil =>
    -- nothing was read before `t`, so `t` is no name: a name alone is an additive phrase
    obtain ⟨hxt, -⟩ := List.cons.inj hv
    rw [← hxt] at hx
    have hok := Phrase.run_yield stop (Phrase.name t hx (tier .additive)) []
      (Phrase.endsBefore_nil _)
    have hfail := h.stuck t r hpost []
    simp only [Phrase.yield_name, List.singleton_append, List.nil_append] at hok hfail
    rw [hfail] at hok
    cases hok
  | cons p ps =>
    -- otherwise the first two tokens are those of `pre ++ post`
    obtain ⟨rfl, hsecond⟩ := List.cons.inj hv
    clear hv
    obtain ⟨r'', hr''⟩ : ∃ r'', ps ++ t :: r = a :: r'' := by
      cases ps with
      | nil =>
        obtain ⟨rfl, -⟩ := List.cons.inj hsecond
        exact ⟨r, rfl⟩
      | cons q qs =>
        obtain ⟨rfl, -⟩ := List.cons.inj hsecond
        exact ⟨qs ++ t :: r, rfl⟩
    exact hshape p a r'' (by rw [hpost, List.cons_append, hr'']) hx ha

theorem failsAtToken_primary {toks : List Token}
    (ih : ∀ toks', toks'.length < toks.length → FailsAtToken stop .expression toks') :
    FailsAtToken stop .primary toks := by
  intro err h
  cases toks with
  | nil =>
    rw [run_primary_nil] at h
    cases h
    exact ⟨[], [], rfl, rfl, viable_nil _, fun _ _ h => by cases h⟩
  | cons t r =>
    cases hk : t.kind with
    | openParen =>
      rw [run_primary_paren stop hk] at h
      rcases Except.bind_eq_error.1 h with hin | ⟨⟨e, rest⟩, hin, hclose⟩
      · -- the expression inside fails
        obtain ⟨pre, post, rfl, hs⟩ := ih r (by simp) err hin
        refine ⟨t :: pre, post, rfl, hs.span, hs.viable.paren hk, fun t' r' hpost v => ?_⟩
        rw [List.cons_append, run_primary_paren stop hk, hs.stuck t' r' hpost v]
        rfl
      · -- the expression inside is read, and no parenthesis closes it
        obtain ⟨d, rfl, rfl, -⟩ := run_sound stop hin
        cases rest with
        | nil =>
          cases hclose
          exact ⟨t :: d.yield, [], by simp, rfl, d.viable.paren hk, fun _ _ h => by cases h⟩
        | cons c r' =>
          cases hc : c.kind.isClose
          · simp only [closeParen, hc] at hclose
            cases hclose
            refine ⟨t :: d.yield, c :: r', by simp, rfl, d.viable.paren hk, ?_⟩
            rintro c' r'' hpost v
            obtain ⟨rfl, rfl⟩ := List.cons.inj hpost
            rw [List.cons_append, run_primary_paren stop hk,
              run_append_of_ok stop hin (c :: v) rfl]
            simp [Except.bind, closeParen, hc]
          · simp [closeParen, hc] at hclose
    | ident =>
      rw [run_primary_ident stop hk] at h
      cases h
    | integer value radix =>
      rw [run_primary_integer stop hk] at h
      cases h
    | float value =>
      rw [run_primary_float stop hk] at h
      cases h
    | endOfInput =>
      rw [run_primary_end stop hk] at h
      cases h
      exact ⟨[], t :: r, rfl, StopsAt.first stop rfl fun _ => run_primary_end stop hk⟩
    | closeParen =>
      rw [run_primary_not_literal stop (.inl hk)] at h
      cases h
      exact ⟨[], t :: r, rfl, StopsAt.first stop rfl fun _ => run_primary_not_literal stop (.inl hk)⟩
    | blank =>
      rw [run_primary_not_literal stop (.inr (.inl hk))] at h
      cases h
      exact ⟨[], t :: r, rfl, StopsAt.first stop rfl fun _ => run_primary_not_literal stop (.inr (.inl hk))⟩
    | operator o =>
      rw [run_primary_not_literal stop (.inr (.inr ⟨o, hk⟩))] at h
      cases h
      exact ⟨[], t :: r, rfl, StopsAt.first stop rfl fun _ => run_primary_not_literal stop (.inr (.inr ⟨o, hk⟩))⟩

theorem failsAtToken_unary {toks : List Token}
    (ih : ∀ toks', toks'.length < toks.length → FailsAtToken stop .primary toks')
    (hprimary : FailsAtToken stop .primary toks) : FailsAtToken stop .unary toks := by
  intro err h
  cases toks with
  | nil =>
    rw [run_unary_nil] at h
    obtain ⟨pre, post, hsplit, hs⟩ := hprimary err h
    exact ⟨pre, post, hsplit, hs.bare stop (by simp [← hsplit])⟩
  | cons t r =>
    by_cases hop : ∃ o, t.kind = .operator o
    · obtain ⟨o, ho⟩ := hop
      cases hu : unaryOp? o with
      | none =>
        -- an operator that stands before no primary
        rw [run_unary_unexpected stop ho hu] at h
        cases h
        exact ⟨[], t :: r, rfl, StopsAt.first stop rfl fun _ => run_unary_unexpected stop ho hu⟩
      | some op =>
        rw [run_unary_operator stop ho hu] at h
        obtain ⟨pre, post, rfl, hs⟩ := ih r (by simp) err (Except.map_eq_error.1 h)
        refine ⟨t :: pre, post, rfl, hs.span,
          hs.viable.prefixed ho ((unaryOp?_eq_some_iff o op).1 hu), fun t' r' hpost v => ?_⟩
        rw [List.cons_append, run_unary_operator stop ho hu, hs.stuck t' r' hpost v]
        rfl
    · have hnot : ∀ o, t.kind ≠ .operator o := fun o ho => hop ⟨o, ho⟩
      rw [run_unary_of_not_operator stop hnot] at h
      obtain ⟨pre, post, hsplit, hs⟩ := hprimary err h
      exact ⟨pre, post, hsplit, hs.bare stop (by rw [← hsplit]; simpa using hnot)⟩

theorem failsAtToken_tier {b : Tier} {toks : List Token}
    (ih : ∀ toks', toks'.length < toks.length → FailsAtToken stop (tier b) toks')
    (hoperand : FailsAtToken stop b.operand toks) : FailsAtToken stop (tier b) toks := by
  intro err h
  rw [run_tier] at h
  rcases Except.bind_eq_error.1 h with hl | ⟨⟨e, rest⟩, hl, hext⟩
  · obtain ⟨pre, post, hsplit, hs⟩ := hoperand err hl
    exact ⟨pre, post, hsplit, hs.operand stop⟩
  · -- the operand is read, then its operator, and the tier fails after it
    obtain ⟨d, rfl, rfl, -⟩ := run_sound stop hl
    cases rest with
    | nil => cases hext
    | cons t r =>
      simp only [Tier.extend] at hext
      cases hb : b.opOf t.kind with
      | none =>
        rw [hb] at hext
        cases hext
      | some op =>
        rw [hb] at hext
        obtain ⟨o, ho, hop⟩ := (Tier.opOf_eq_some_iff b t.kind op).1 hb
        obtain ⟨pre, post, rfl, hs⟩ :=
          ih r (by simp only [List.length_append, List.length_cons]; omega) err
            (Except.map_eq_error.1 hext)
        refine ⟨d.yield ++ t :: pre, post, by simp, hs.span, hs.viable.binary d ho hop,
          fun t' r' hpost v => ?_⟩
        rw [List.append_assoc, List.cons_append, run_tier,
          run_append_of_ok stop hl (t :: (pre ++ t' :: v)) rfl]
        simp only [Except.bind, Tier.extend, hb]
        rw [hs.stuck t' r' hpost v]
        rfl

theorem failsAtToken_expression {toks : List Token}
    (ih : ∀ toks', toks'.length < toks.length → FailsAtToken stop (tier .additive) toks')
    (hadditive : FailsAtToken stop (tier .additive) toks) : FailsAtToken stop .expression toks := by
  intro err h
  by_cases hx : ∃ x a r, toks = x :: a :: r ∧ x.kind = .ident ∧ a.kind = .operator .assign
  · obtain ⟨x, a, r, rfl, hxk, hak⟩ := hx
    rw [run_expression_assign stop hxk hak] at h
    obtain ⟨pre, post, rfl, hs⟩ :=
      ih r (by simp only [List.length_cons]; omega) err (Except.map_eq_error.1 h)
    refine ⟨x :: a :: pre, post, rfl, hs.span, hs.viable.assign hxk hak, fun t r' hpost v => ?_⟩
    rw [List.cons_append, List.cons_append, run_expression_assign stop hxk hak,
      hs.stuck t r' hpost v]
    rfl
  · have hshape : ∀ x a r, toks = x :: a :: r → x.kind = .ident → a.kind ≠ .operator .assign :=
      fun x a r h hxk hak => hx ⟨x, a, r, h, hxk, hak⟩
    rw [run_expression_of_not_assign stop hshape] at h
    obtain ⟨pre, post, rfl, hs⟩ := hadditive err h
    exact ⟨pre, post, rfl, hs.plain stop hshape⟩

/-- When the parser fails at a level, it stops at a token: the tokens before it are viable at
that level, and whatever follows that token the parser fails there with the same error. -/
theorem run_error {L : Level} {toks : List Token} {err : ParseError}
    (h : run stop L toks = .error err) :
    ∃ pre post, toks = pre ++ post ∧ StopsAt stop L err pre post := by
  have hall : ∀ L toks, FailsAtToken stop L toks :=
    induction_rules (fun _ => failsAtToken_expression stop) (fun _ _ => failsAtToken_tier stop)
      (fun _ => failsAtToken_unary stop) (fun _ => failsAtToken_primary stop)
  exact hall L toks err h

end Level

/-! ## Whole lines -/

/-- The tokens of a line the grammar reads, followed by the line's end. -/
def Token.wordsAndEnd (line : String) : List Token :=
  Token.dropBlanks (Token.scanLine line).1 ++ [Token.endOf line]

/-- Where the reading of a line that lexes stops: after a viable `pre`, at the first token of
`post` or at the end of the line, and no sentence begins with `pre` and that token. -/
theorem Expr.parse_error_stops {s : String} {err : ParseError}
    (hlex : (Token.scanLine s).2 = none) (h : Expr.parse s = .error err) :
    ∃ pre post, Token.dropBlanks (Token.scanLine s).1 = pre ++ post ∧
      err.span = (post.head?.map Token.span).getD ⟨s.utf8ByteSize, 0⟩ ∧
      Level.expression.Viable pre ∧
      ∀ t r, post = t :: r → ¬ Level.expression.Viable (pre ++ [t]) := by
  rw [Expr.parse_of_lexed hlex] at h
  rcases Except.bind_eq_error.1 h with hrun | ⟨⟨e, rest⟩, hrun, hwhole⟩
  · -- the expression rule fails, and fails after `pre` and `t` whatever follows
    obtain ⟨pre, post, hsplit, hs⟩ := Level.run_error _ hrun
    refine ⟨pre, post, hsplit, hs.span, hs.viable, ?_⟩
    rintro t r hpost ⟨v, d, hd⟩
    have hok := Phrase.run_yield s.utf8ByteSize d [] (Phrase.endsBefore_nil d)
    rw [List.append_nil, hd, List.append_assoc, List.singleton_append,
      hs.stuck t r hpost v] at hok
    cases hok
  · -- a whole expression is read, and a token is left after it
    obtain ⟨d, hsplit, rfl, -⟩ := Level.run_sound _ hrun
    cases rest with
    | nil => cases hwhole
    | cons t r =>
      cases hwhole
      refine ⟨d.yield, t :: r, hsplit, rfl, d.viable, ?_⟩
      rintro t' r' hpost ⟨v, d', hd'⟩
      obtain ⟨rfl, rfl⟩ := List.cons.inj hpost
      rw [hsplit] at hrun
      have hread := Level.run_append_of_ok _ hrun (t :: v) rfl
      have hok := Phrase.run_yield s.utf8ByteSize d' [] (Phrase.endsBefore_nil d')
      rw [List.append_nil, hd', List.append_assoc, List.singleton_append, hread] at hok
      simp at hok

/-- A syntax error names the first token of the line, or its end, after which no sentence can
go on: the tokens before it are a viable prefix, the tokens up to and including it are not, and
no other token of the line is so placed. -/
theorem parse_error_at_first_dead_token (s : String) (err : ParseError)
    (hlex : (Token.scanLine s).2 = none) (hparse : Expr.parse s = .error err) :
    ∃ i t, (Token.wordsAndEnd s)[i]? = some t ∧ err.span = t.span ∧
      Level.expression.Viable ((Token.wordsAndEnd s).take i) ∧
      ¬ Level.expression.Viable ((Token.wordsAndEnd s).take (i + 1)) ∧
      ∀ j, Level.expression.Viable ((Token.wordsAndEnd s).take j) →
        ¬ Level.expression.Viable ((Token.wordsAndEnd s).take (j + 1)) → j = i := by
  obtain ⟨pre, post, hsplit, hspan, hviable, hdead⟩ := Expr.parse_error_stops hlex hparse
  have hw : Token.wordsAndEnd s = pre ++ (post ++ [Token.endOf s]) := by
    rw [Token.wordsAndEnd, hsplit, List.append_assoc]
  -- the token named is the first of `post`, or the end of the line
  obtain ⟨t, r, hpost, ht, hnot⟩ : ∃ t r, post ++ [Token.endOf s] = t :: r ∧ err.span = t.span ∧
      ¬ Level.expression.Viable (pre ++ [t]) := by
    cases post with
    | nil =>
      refine ⟨Token.endOf s, [], rfl, by simp [hspan, Token.endOf, Token.span], ?_⟩
      rintro ⟨v, d, hd⟩
      exact d.kind_ne_endOfInput (Token.endOf s) (by simp [hd]) rfl
    | cons t r => exact ⟨t, r ++ [Token.endOf s], rfl, hspan, hdead t r rfl⟩
  have hviable' : Level.expression.Viable ((Token.wordsAndEnd s).take pre.length) := by
    rw [hw, List.take_left' rfl]
    exact hviable
  have hnot' : ¬ Level.expression.Viable ((Token.wordsAndEnd s).take (pre.length + 1)) := by
    rw [hw, hpost, List.take_append, List.take_of_length_le (by omega),
      Nat.add_sub_cancel_left]
    exact hnot
  refine ⟨pre.length, t, by simp [hw, hpost], ht, hviable', hnot', ?_⟩
  intro j hj hj'
  -- viable prefixes are closed under prefixes, so the first one that is not is unique
  rcases Nat.lt_or_ge pre.length j with hlt | hge
  · exact absurd (hj.of_take_le hlt) hnot'
  · rcases Nat.lt_or_ge j pre.length with hlt' | hge'
    · exact absurd (hviable'.of_take_le hlt') hj'
    · omega

/-- The line `1 2` lexes, and reading it stops at `2` with `input left`: `1` is a whole
sentence, and no sentence goes on with `2` after it. -/
theorem parse_error_input_left_one_two :
    (Token.scanLine "1 2").2 = none ∧ Expr.parse "1 2" = .error (.grammar .inputLeft ⟨2, 1⟩) ∧
    ∃ i t, (Token.wordsAndEnd "1 2")[i]? = some t ∧ (ParseError.grammar .inputLeft ⟨2, 1⟩).span = t.span ∧
      Level.expression.Viable ((Token.wordsAndEnd "1 2").take i) ∧
      ¬ Level.expression.Viable ((Token.wordsAndEnd "1 2").take (i + 1)) ∧
      ∀ j, Level.expression.Viable ((Token.wordsAndEnd "1 2").take j) →
        ¬ Level.expression.Viable ((Token.wordsAndEnd "1 2").take (j + 1)) → j = i := by
  have hscan : Token.scanLine "1 2" = ([⟨.integer 1 .decimal, "1", 0⟩, ⟨.blank, " ", 1⟩,
      ⟨.integer 2 .decimal, "2", 2⟩], none) := by
    rw [Token.scanLine, show "1 2".toList = ['1', ' ', '2'] by decide, Token.scan]
    simp +decide [Lexeme.next, Lexeme.number, Lexeme.unprefixed, Lexeme.integer, Except.map]
    rw [Token.scan]
    simp +decide [Lexeme.next, Lexeme.run]
    rw [Token.scan]
    simp +decide [Lexeme.next, Lexeme.number, Lexeme.unprefixed, Lexeme.integer, Except.map]
    rw [Token.scan]
    simp [Lexeme.next]
  have hlex : (Token.scanLine "1 2").2 = none := by rw [hscan]
  have hparse : Expr.parse "1 2" = .error (.grammar .inputLeft ⟨2, 1⟩) := by
    have hone : ∀ stop, Level.run stop (.tier .additive)
        [⟨.integer 1 .decimal, "1", 0⟩, ⟨.integer 2 .decimal, "2", 2⟩] =
          .ok (.lit (.int 1), [⟨.integer 2 .decimal, "2", 2⟩]) := fun stop =>
      Phrase.run_yield stop (.operand (b := .additive) (.operand (b := .multiplicative)
        (.operand (b := .power) (.bare (.integer ⟨.integer 1 .decimal, "1", 0⟩ 1 .decimal rfl))))) _
        (Phrase.endsBefore_of_ne (by simp) (Level.follows_cons_of_takes rfl))
    rw [Expr.parse_of_lexed hlex, hscan,
      show Token.dropBlanks _ = [⟨.integer 1 .decimal, "1", 0⟩, ⟨.integer 2 .decimal, "2", 2⟩] from rfl,
      Level.run_expression_of_not_assign _ (by intro x a r h hx; cases h; cases hx), hone]
    rfl
  exact ⟨hlex, hparse, parse_error_at_first_dead_token "1 2" _ hlex hparse⟩

end Calculator
