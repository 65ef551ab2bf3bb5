import Calculator.Proofs.Grammar

/-! # The parser reads exactly the grammar's sentences

Three facts about the parser at every level, and what they give for whole lines. What may follow
a phrase is `Phrase.EndsBefore`: tokens that do not carry it further and, after an expression
that is a lone name, no arrow, since the parser tries the assignment rule first and would read
the name as an assignment's target.

* Completeness (`Phrase.run_yield`): on the tokens of any derivation, followed by tokens before
  which it may end, the parser builds that derivation's tree and leaves those tokens.
* Soundness (`Level.run_sound`): whatever the parser reads is the yield of a derivation that
  builds the tree it returns and may end before what it leaves. With completeness, the parser at
  each level is the grammar (`Level.run_eq_ok_iff`).
* Unambiguity (`Phrase.eq_of_yield_eq`): two derivations from one rule with the same tokens are
  the same derivation. Each choice of a derivation is forced by the parser's reading of the same
  tokens, by completeness.

`parse_eq_ok_iff_sentence` puts them together: a line that lexes is read as `e` exactly when the
tokens other than blanks are a sentence whose derivation builds `e`, and that derivation is the
only one. A derivation reads only its tokens' kinds and literals (`Phrase.exists_of_unplaced`),
so where blanks stand does not change the tree.
-/

namespace Calculator

set_option autoImplicit false

theorem Except.bind_eq_ok {ε α β : Type} {x : Except ε α} {f : α → Except ε β} {b : β} :
    x.bind f = .ok b ↔ ∃ a, x = .ok a ∧ f a = .ok b := by
  cases x <;> simp [Except.bind]

theorem Except.map_eq_ok {ε α β : Type} {x : Except ε α} {f : α → β} {b : β} :
    x.map f = .ok b ↔ ∃ a, x = .ok a ∧ f a = b := by
  cases x <;> simp [Except.map]

theorem Except.bind_eq_error {ε α β : Type} {x : Except ε α} {f : α → Except ε β} {e : ε} :
    x.bind f = .error e ↔ x = .error e ∨ ∃ a, x = .ok a ∧ f a = .error e := by
  cases x <;> simp [Except.bind]

theorem Except.map_eq_error {ε α β : Type} {x : Except ε α} {f : α → β} {e : ε} :
    x.map f = .error e ↔ x = .error e := by
  cases x <;> simp [Except.map]

namespace Level

variable (stop : Nat)

theorem follows_cons_of_takes {L : Level} {t : Token} {r : List Token}
    (h : L.takes t.kind = false) : L.Follows (t :: r) := by
  intro t' ht'
  cases ht'
  exact h

theorem operand_ne_expression (b : Tier) : b.operand ≠ .expression := by
  cases b <;> simp [Tier.operand]

theorem run_ident_arrow {x a : Token} {r : List Token} (hx : x.kind = .ident)
    (ha : a.kind = .operator .assign) :
    run stop (.tier .additive) (x :: a :: r) = .ok (.var x.literal, a :: r) := by
  have hnot : ∀ o, x.kind ≠ .operator o := by simp [hx]
  have hu : run stop .unary (x :: a :: r) = .ok (.var x.literal, a :: r) := by
    rw [run_unary_of_not_operator stop hnot, run_primary_ident stop hx]
  have hp := run_tier_of_operand stop (b := .power) hu
    (follows_cons_of_takes (by simp [ha, takes, Tier.opOf, TokenKind.isCaret]))
  have hm := run_tier_of_operand stop (b := .multiplicative) hp
    (follows_cons_of_takes (by simp [ha, takes, Tier.opOf, TokenKind.isCaret,
      multiplicativeOp?]))
  exact run_tier_of_operand stop (b := .additive) hm
    (follows_cons_of_takes (by simp [ha, takes, Tier.opOf, TokenKind.isCaret,
      multiplicativeOp?, additiveOp?]))

theorem closeParen_eq_ok {e e' : Expr} {rest rest' : List Token} :
    closeParen stop e rest = .ok (e', rest') ↔
      ∃ c, rest = c :: rest' ∧ c.kind = .closeParen ∧ e' = e := by
  cases rest with
  | nil => simp [closeParen]
  | cons c r =>
    constructor
    · intro h
      cases hc : c.kind <;> simp [closeParen, TokenKind.isClose, hc] at h
      obtain ⟨rfl, rfl⟩ := h
      exact ⟨c, rfl, hc, rfl⟩
    · rintro ⟨c', h, hc, rfl⟩
      obtain ⟨rfl, rfl⟩ := List.cons.inj h
      simp [closeParen, TokenKind.isClose, hc]

end Level

/-! ## Where a phrase may end -/

/-- The tokens after a phrase let it end there: they do not carry it further, and when the
phrase is an expression that is a lone name, they do not begin with an arrow, which would make
the name an assignment's target. -/
structure Phrase.EndsBefore {L : Level} (d : Phrase L) (rest : List Token) : Prop where
  follows : L.Follows rest
  noArrow : L = .expression → ∀ y a, d.yield = [y] → y.kind = .ident → rest.head? = some a →
    a.kind ≠ .operator .assign

namespace Phrase

variable (stop : Nat)

theorem endsBefore_of_ne {L : Level} (hL : L ≠ .expression) {d : Phrase L} {rest : List Token}
    (h : L.Follows rest) : d.EndsBefore rest :=
  ⟨h, fun h' => absurd h' hL⟩

theorem endsBefore_nil {L : Level} (d : Phrase L) : d.EndsBefore [] :=
  ⟨Level.follows_nil L, fun _ _ _ _ _ ha => by cases ha⟩

theorem EndsBefore.of_head {L : Level} {d : Phrase L} {rest rest' : List Token}
    (h : d.EndsBefore rest) (hhead : rest'.head? = rest.head?) : d.EndsBefore rest' :=
  ⟨fun t ht => h.follows t (hhead ▸ ht), fun hL y a hy hx ha => h.noArrow hL y a hy hx (hhead ▸ ha)⟩

/-! ## Completeness -/

/-- Completeness: the parser reads every derivation back from its tokens, followed by tokens
before which it may end, and leaves those tokens. The induction is on the derivation. -/
theorem run_yield {L : Level} (d : Phrase L) :
    ∀ rest, d.EndsBefore rest → L.run stop (d.yield ++ rest) = .ok (d.tree, rest) := by
  induction d with
  | assign target arrow value htarget harrow ih =>
    intro rest hend
    simp only [yield, tree, List.cons_append]
    rw [Level.run_expression_assign stop htarget harrow,
      ih rest (endsBefore_of_ne (by simp) hend.follows)]
    rfl
  | plain p ih =>
    intro rest hend
    have hp : Level.run stop (.tier .additive) p.yield = .ok (p.tree, []) := by
      simpa using ih [] (endsBefore_nil p)
    simp only [yield, tree]
    rw [Level.run_expression_of_not_assign stop, ih rest (endsBefore_of_ne (by simp) hend.follows)]
    -- the parser would take the assignment rule only on a name and an arrow
    intro x a r hxar hx ha
    rcases hy : p.yield with _ | ⟨y, _ | ⟨z, ys⟩⟩
    · exact p.yield_ne_nil hy
    · rw [hy, List.singleton_append, List.cons.injEq] at hxar
      obtain ⟨rfl, rfl⟩ := hxar
      exact hend.noArrow rfl _ a hy hx rfl ha
    · rw [hy, List.cons_append, List.cons.injEq] at hxar
      obtain ⟨rfl, hz⟩ := hxar
      obtain ⟨rfl, -⟩ := List.cons.inj hz
      rw [hy, Level.run_ident_arrow stop hx ha] at hp
      simp at hp
  | operand p ih =>
    intro rest hend
    exact Level.run_tier_of_operand stop
      (ih rest (endsBefore_of_ne (Level.operand_ne_expression _)
        (Level.follows_operand hend.follows))) hend.follows
  | @binary b left t o op ht hop right ihl ihr =>
    intro rest hend
    have hleft : Level.run stop b.operand (left.yield ++ t :: (right.yield ++ rest)) =
        .ok (left.tree, t :: (right.yield ++ rest)) :=
      ihl _ (endsBefore_of_ne (Level.operand_ne_expression b)
        (Level.follows_cons_of_takes (by rw [ht]; exact Tier.operand_takes_op hop)))
    simp only [yield, tree, List.append_assoc, List.cons_append]
    rw [Level.run_tier, hleft]
    simp only [Except.bind, Tier.extend, Tier.opOf_operator ht hop]
    rw [ihr rest (endsBefore_of_ne (by simp) hend.follows)]
    rfl
  | bare p ih =>
    intro rest _
    obtain ⟨t, r, hy, hnot⟩ := p.primary_head
    simp only [yield, tree]
    rw [hy, List.cons_append, Level.run_unary_of_not_operator stop hnot, ← List.cons_append, ← hy]
    exact ih rest (endsBefore_of_ne (by simp) (fun _ _ => rfl))
  | prefixed t o op ht hop p ih =>
    intro rest _
    simp only [yield, tree, List.cons_append]
    rw [Level.run_unary_operator stop ht ((unaryOp?_eq_some_iff o op).2 hop),
      ih rest (endsBefore_of_ne (by simp) (fun _ _ => rfl))]
    rfl
  | paren o c inner ho hc ih =>
    intro rest _
    have hin : Level.run stop .expression (inner.yield ++ c :: rest) = .ok (inner.tree, c :: rest) :=
      ih (c :: rest) ⟨Level.follows_cons_of_takes (by simp [hc, Level.takes, Tier.opOf,
        additiveOp?, multiplicativeOp?, TokenKind.isCaret]), fun _ _ a _ _ ha => by cases ha; simp [hc]⟩
    simp only [yield, tree, List.cons_append, List.append_assoc, List.nil_append]
    rw [Level.run_primary_paren stop ho, hin]
    simp [Except.bind, closeParen, TokenKind.isClose, hc]
  | ident t ht =>
    intro rest _
    exact Level.run_primary_ident stop ht
  | integer t value radix ht =>
    intro rest _
    exact Level.run_primary_integer stop ht
  | float t value ht =>
    intro rest _
    exact Level.run_primary_float stop ht

end Phrase

namespace Level

variable (stop : Nat)

/-! ## Soundness -/

/-- The parser reads phrases at a level on some tokens: whenever it succeeds, the tokens it took
are the yield of a derivation that builds the tree it returns, and that derivation may end before
the tokens it left. -/
def ReadsPhrase (L : Level) (toks : List Token) : Prop :=
  ∀ e rest, run stop L toks = .ok (e, rest) →
    ∃ d : Phrase L, toks = d.yield ++ rest ∧ d.tree = e ∧ d.EndsBefore rest

theorem readsPhrase_primary {toks : List Token}
    (ih : ∀ toks', toks'.length < toks.length → ReadsPhrase stop .expression toks') :
    ReadsPhrase stop .primary toks := by
  intro e rest h
  cases toks with
  | nil =>
    rw [run_primary_nil] at h
    cases h
  | cons t r =>
    cases hk : t.kind with
    | openParen =>
      rw [run_primary_paren stop hk] at h
      obtain ⟨⟨e', rest'⟩, hin, hclose⟩ := Except.bind_eq_ok.1 h
      obtain ⟨c, rfl, hc, he⟩ := (closeParen_eq_ok stop).1 hclose
      obtain ⟨d, rfl, rfl, -⟩ := ih r (by simp) e' (c :: rest) hin
      exact ⟨.paren t c d hk hc, by simp [Phrase.yield], he.symm, Phrase.endsBefore_of_ne (by simp) (fun _ _ => rfl)⟩
    | ident =>
      rw [run_primary_ident stop hk] at h
      obtain ⟨rfl, rfl⟩ := Prod.mk.inj (Except.ok.inj h)
      exact ⟨.ident t hk, rfl, rfl, Phrase.endsBefore_of_ne (by simp) (fun _ _ => rfl)⟩
    | integer value radix =>
      rw [run_primary_integer stop hk] at h
      obtain ⟨rfl, rfl⟩ := Prod.mk.inj (Except.ok.inj h)
      exact ⟨.integer t value radix hk, rfl, rfl, Phrase.endsBefore_of_ne (by simp) (fun _ _ => rfl)⟩
    | float value =>
      rw [run_primary_float stop hk] at h
      obtain ⟨rfl, rfl⟩ := Prod.mk.inj (Except.ok.inj h)
      exact ⟨.float t value hk, rfl, rfl, Phrase.endsBefore_of_ne (by simp) (fun _ _ => rfl)⟩
    | endOfInput =>
      rw [run_primary_end stop hk] at h
      cases h
    | closeParen =>
      rw [run_primary_not_literal stop (.inl hk)] at h
      cases h
    | blank =>
      rw [run_primary_not_literal stop (.inr (.inl hk))] at h
      cases h
    | operator o =>
      rw [run_primary_not_literal stop (.inr (.inr ⟨o, hk⟩))] at h
      cases h

theorem readsPhrase_unary {toks : List Token}
    (ih : ∀ toks', toks'.length < toks.length → ReadsPhrase stop .primary toks')
    (hprimary : ReadsPhrase stop .primary toks) : ReadsPhrase stop .unary toks := by
  intro e rest h
  cases toks with
  | nil =>
    rw [run_unary_nil, run_primary_nil] at h
    cases h
  | cons t r =>
    by_cases hop : ∃ o, t.kind = .operator o
    · obtain ⟨o, ho⟩ := hop
      cases hu : unaryOp? o with
      | none =>
        rw [run_unary_unexpected stop ho hu] at h
        cases h
      | some op =>
        rw [run_unary_operator stop ho hu] at h
        obtain ⟨⟨e', rest'⟩, hp, he⟩ := Except.map_eq_ok.1 h
        obtain ⟨rfl, rfl⟩ := Prod.mk.inj he
        obtain ⟨d, rfl, rfl, -⟩ := ih r (by simp) e' rest' hp
        exact ⟨.prefixed t o op ho ((unaryOp?_eq_some_iff o op).1 hu) d, rfl, rfl,
          Phrase.endsBefore_of_ne (by simp) (fun _ _ => rfl)⟩
    · rw [run_unary_of_not_operator stop (fun o ho => hop ⟨o, ho⟩)] at h
      obtain ⟨d, htoks, rfl, -⟩ := hprimary e rest h
      exact ⟨.bare d, htoks, rfl, Phrase.endsBefore_of_ne (by simp) (fun _ _ => rfl)⟩

theorem readsPhrase_tier {b : Tier} {toks : List Token}
    (ih : ∀ toks', toks'.length < toks.length → ReadsPhrase stop (.tier b) toks')
    (hoperand : ReadsPhrase stop b.operand toks) : ReadsPhrase stop (.tier b) toks := by
  intro e rest h
  rw [run_tier] at h
  obtain ⟨⟨e', rest'⟩, hl, hext⟩ := Except.bind_eq_ok.1 h
  obtain ⟨d, rfl, rfl, hend⟩ := hoperand e' rest' hl
  cases rest' with
  | nil =>
    obtain ⟨rfl, rfl⟩ := Prod.mk.inj (Except.ok.inj hext)
    exact ⟨.operand d, rfl, rfl, Phrase.endsBefore_nil _⟩
  | cons t r =>
    simp only [Tier.extend] at hext
    cases hb : b.opOf t.kind with
    | none =>
      rw [hb] at hext
      obtain ⟨rfl, rfl⟩ := Prod.mk.inj (Except.ok.inj hext)
      refine ⟨.operand d, rfl, rfl, Phrase.endsBefore_of_ne (by simp) (follows_cons_of_takes ?_)⟩
      rw [takes_tier, hb]
      exact hend.follows t rfl
    | some op =>
      -- the tier reads its operator and itself again on what follows
      rw [hb] at hext
      obtain ⟨⟨e'', rest''⟩, hr, he⟩ := Except.map_eq_ok.1 hext
      obtain ⟨rfl, rfl⟩ := Prod.mk.inj he
      obtain ⟨o, ho, hop⟩ := (Tier.opOf_eq_some_iff b t.kind op).1 hb
      obtain ⟨d', rfl, rfl, hend'⟩ := ih r (by simp only [List.length_append, List.length_cons]; omega)
        e'' rest'' hr
      exact ⟨.binary d t o op ho hop d', by simp [Phrase.yield], rfl,
        Phrase.endsBefore_of_ne (by simp) hend'.follows⟩

theorem readsPhrase_expression {toks : List Token}
    (ih : ∀ toks', toks'.length < toks.length → ReadsPhrase stop (.tier .additive) toks')
    (hadditive : ReadsPhrase stop (.tier .additive) toks) : ReadsPhrase stop .expression toks := by
  intro e rest h
  by_cases hx : ∃ x a r, toks = x :: a :: r ∧ x.kind = .ident ∧ a.kind = .operator .assign
  · obtain ⟨x, a, r, rfl, hxk, hak⟩ := hx
    rw [run_expression_assign stop hxk hak] at h
    obtain ⟨⟨e', rest'⟩, hv, he⟩ := Except.map_eq_ok.1 h
    obtain ⟨rfl, rfl⟩ := Prod.mk.inj he
    obtain ⟨d, rfl, rfl, hend⟩ := ih r (by simp only [List.length_cons]; omega) e' rest' hv
    exact ⟨.assign x a d hxk hak, rfl, rfl, hend.follows,
      fun _ y a' hy => by simp [Phrase.yield] at hy⟩
  · have hshape : ∀ x a r, toks = x :: a :: r → x.kind = .ident → a.kind ≠ .operator .assign :=
      fun x a r h hxk hak => hx ⟨x, a, r, h, hxk, hak⟩
    rw [run_expression_of_not_assign stop hshape] at h
    obtain ⟨d, rfl, rfl, hend⟩ := hadditive e rest h
    refine ⟨.plain d, rfl, rfl, hend.follows, fun _ y a hy hy' ha => ?_⟩
    -- a lone name before an arrow would have been read as an assignment's target
    have hy : d.yield = [y] := hy
    cases rest with
    | nil => cases ha
    | cons a' r' =>
      cases ha
      exact hshape y _ r' (by rw [hy]; rfl) hy'

/-- Soundness: whatever the parser reads at a level is a phrase of that level that may end before
the tokens left, and the tree it returns is that phrase's tree. -/
theorem run_sound {L : Level} {toks rest : List Token} {e : Expr}
    (h : run stop L toks = .ok (e, rest)) :
    ∃ d : Phrase L, toks = d.yield ++ rest ∧ d.tree = e ∧ d.EndsBefore rest := by
  have hall : ∀ L toks, ReadsPhrase stop L toks :=
    induction_rules (fun _ => readsPhrase_expression stop) (fun _ _ => readsPhrase_tier stop)
      (fun _ => readsPhrase_unary stop) (fun _ => readsPhrase_primary stop)
  exact hall L toks e rest h

/-- The parser at a level is the grammar: it reads `e` and leaves `rest` exactly when the tokens
it took are a phrase building `e` that may end before `rest`. -/
theorem run_eq_ok_iff {L : Level} {toks rest : List Token} {e : Expr} :
    run stop L toks = .ok (e, rest) ↔
      ∃ d : Phrase L, toks = d.yield ++ rest ∧ d.tree = e ∧ d.EndsBefore rest := by
  constructor
  · exact run_sound stop
  · rintro ⟨d, rfl, rfl, hend⟩
    exact Phrase.run_yield stop d rest hend

end Level

/-! ## Unambiguity -/

namespace Phrase

theorem additive_yield_ne_assign (p : Phrase (.tier .additive)) {x a : Token} {r : List Token}
    (hx : x.kind = .ident) (ha : a.kind = .operator .assign) : p.yield ≠ x :: a :: r := by
  intro h
  -- reading the additive phrase, the parser would stop after the name
  have hp := run_yield 0 p [] (endsBefore_nil p)
  rw [List.append_nil, h, Level.run_ident_arrow 0 hx ha] at hp
  simp at hp

/-- Below the expression level, where a phrase ends is fixed by the tokens: two derivations that
read the same tokens, each followed by tokens that do not carry it, have the same yield. -/
theorem yield_eq_of_append_eq {L : Level} (hL : L ≠ .expression) {d₁ d₂ : Phrase L}
    {r₁ r₂ : List Token} (h₁ : L.Follows r₁) (h₂ : L.Follows r₂)
    (h : d₁.yield ++ r₁ = d₂.yield ++ r₂) : d₁.yield = d₂.yield := by
  have e₁ := run_yield 0 d₁ r₁ (endsBefore_of_ne hL h₁)
  have e₂ := run_yield 0 d₂ r₂ (endsBefore_of_ne hL h₂)
  rw [h, e₂] at e₁
  simp only [Except.ok.injEq, Prod.mk.injEq] at e₁
  exact (List.append_inj' h (by rw [e₁.2])).1

theorem operand_yield_ne_binary {b : Tier} (p left : Phrase b.operand) {t : Token} {o : Operator}
    {op : BinaryOp} (ht : t.kind = .operator o) (hop : (o, op) ∈ b.ops) (right : Phrase (.tier b)) :
    p.yield ≠ left.yield ++ t :: right.yield := by
  intro h
  have hl : p.yield = left.yield :=
    yield_eq_of_append_eq (Level.operand_ne_expression b) (Level.follows_nil _)
      (Level.follows_cons_of_takes (by rw [ht]; exact Tier.operand_takes_op hop))
      (by rw [List.append_nil, h])
  rw [hl] at h
  simp at h

theorem primary_yield_ne_operator (p : Phrase .primary) {t : Token} {o : Operator}
    {r : List Token} (ht : t.kind = .operator o) : p.yield ≠ t :: r := by
  intro h
  obtain ⟨t', r', hy, hnot⟩ := p.primary_head
  rw [hy, List.cons.injEq] at h
  exact hnot o (h.1 ▸ ht)

/-- Unambiguity: two derivations from one rule that derive the same tokens are the same
derivation. The induction is on the first derivation; where the two could take different
rules, the parser's reading of the common tokens decides (`yield_eq_of_append_eq`). -/
theorem eq_of_yield_eq {L : Level} (d₁ : Phrase L) : ∀ d₂ : Phrase L, d₁.yield = d₂.yield → d₁ = d₂ := by
  induction d₁ with
  | assign x a v hx ha ih =>
    intro d₂ h
    cases d₂ with
    | assign x' a' v' hx' ha' =>
      simp only [yield, List.cons.injEq] at h
      obtain ⟨rfl, rfl, hv⟩ := h
      rw [ih v' hv]
    | plain p => exact absurd h.symm (additive_yield_ne_assign p hx ha)
  | plain p ih =>
    intro d₂ h
    cases d₂ with
    | assign x a v hx ha => exact absurd h (additive_yield_ne_assign p hx ha)
    | plain p' => rw [ih p' h]
  | operand p ih =>
    intro d₂ h
    cases d₂ with
    | operand p' => rw [ih p' h]
    | binary left t o op ht hop right => exact absurd h (operand_yield_ne_binary p left ht hop right)
  | binary left t o op ht hop right ihl ihr =>
    intro d₂ h
    cases d₂ with
    | operand p => exact absurd h.symm (operand_yield_ne_binary p left ht hop right)
    | binary left' t' o' op' ht' hop' right' =>
      simp only [yield] at h
      -- both left operands end at the first operator of the tier
      have hl : left.yield = left'.yield :=
        yield_eq_of_append_eq (Level.operand_ne_expression _)
          (Level.follows_cons_of_takes (by rw [ht]; exact Tier.operand_takes_op hop))
          (Level.follows_cons_of_takes (by rw [ht']; exact Tier.operand_takes_op hop')) h
      rw [hl, List.append_cancel_left_eq, List.cons.injEq] at h
      obtain ⟨rfl, hr⟩ := h
      obtain rfl : o = o' := TokenKind.operator.inj (ht.symm.trans ht')
      obtain rfl : op = op' := Tier.ops_functional hop hop'
      rw [ihl left' hl, ihr right' hr]
  | bare p ih =>
    intro d₂ h
    cases d₂ with
    | bare p' => rw [ih p' h]
    | prefixed t o op ht hop p' => exact absurd h (primary_yield_ne_operator p ht)
  | prefixed t o op ht hop p ih =>
    intro d₂ h
    cases d₂ with
    | bare p' => exact absurd h.symm (primary_yield_ne_operator p' ht)
    | prefixed t' o' op' ht' hop' p' =>
      simp only [yield, List.cons.injEq] at h
      obtain ⟨rfl, hp⟩ := h
      obtain rfl : o = o' := TokenKind.operator.inj (ht.symm.trans ht')
      obtain rfl : op = op' := prefixOps_functional hop hop'
      rw [ih p' hp]
  | paren o c inner ho hc ih =>
    intro d₂ h
    cases d₂ with
    | paren o' c' inner' ho' hc' =>
      simp only [yield, List.cons.injEq] at h
      obtain ⟨rfl, h⟩ := h
      obtain ⟨hin, hcc⟩ := List.append_inj' h rfl
      obtain rfl : c = c' := List.head_eq_of_cons_eq hcc
      rw [ih inner' hin]
    | ident t ht => obtain ⟨rfl, -⟩ := List.cons.inj h; cases ho.symm.trans ht
    | integer t value radix ht => obtain ⟨rfl, -⟩ := List.cons.inj h; cases ho.symm.trans ht
    | float t value ht => obtain ⟨rfl, -⟩ := List.cons.inj h; cases ho.symm.trans ht
  | ident t ht =>
    intro d₂ h
    cases d₂ with
    | ident t' ht' => obtain ⟨rfl, -⟩ := List.cons.inj h; rfl
    | paren o c inner ho hc => obtain ⟨rfl, -⟩ := List.cons.inj h; cases ht.symm.trans ho
    | integer t' value radix ht' => obtain ⟨rfl, -⟩ := List.cons.inj h; cases ht.symm.trans ht'
    | float t' value ht' => obtain ⟨rfl, -⟩ := List.cons.inj h; cases ht.symm.trans ht'
  | integer t value radix ht =>
    intro d₂ h
    cases d₂ with
    | integer t' value' radix' ht' =>
      obtain ⟨rfl, -⟩ := List.cons.inj h
      obtain ⟨rfl, rfl⟩ := TokenKind.integer.inj (ht.symm.trans ht')
      rfl
    | paren o c inner ho hc => obtain ⟨rfl, -⟩ := List.cons.inj h; cases ht.symm.trans ho
    | ident t' ht' => obtain ⟨rfl, -⟩ := List.cons.inj h; cases ht.symm.trans ht'
    | float t' value' ht' => obtain ⟨rfl, -⟩ := List.cons.inj h; cases ht.symm.trans ht'
  | float t value ht =>
    intro d₂ h
    cases d₂ with
    | float t' value' ht' =>
      obtain ⟨rfl, -⟩ := List.cons.inj h
      obtain rfl := TokenKind.float.inj (ht.symm.trans ht')
      rfl
    | paren o c inner ho hc => obtain ⟨rfl, -⟩ := List.cons.inj h; cases ht.symm.trans ho
    | ident t' ht' => obtain ⟨rfl, -⟩ := List.cons.inj h; cases ht.symm.trans ht'
    | integer t' value' radix' ht' => obtain ⟨rfl, -⟩ := List.cons.inj h; cases ht.symm.trans ht'

end Phrase

/-! ## Whole lines -/

/-- The tokens of a line that the grammar reads: all but the blanks. -/
def Token.dropBlanks (tokens : List Token) : List Token :=
  tokens.filter fun t => !t.kind.isBlank

/-- The last step of reading a line: the expression must take every token. -/
def Level.wholeLine : Expr × List Token → Except ParseError Expr
  | (e, []) => .ok e
  | (_, t :: _) => .error (.grammar .inputLeft t.span)

theorem Expr.parse_of_lexError {s : String} {err : LexError}
    (h : (Token.scanLine s).2 = some err) : Expr.parse s = .error (.lexical err) := by
  have hs : Token.scanLine s = ((Token.scanLine s).1, some err) := Prod.ext rfl h
  rw [Expr.parse, hs]

theorem Expr.parse_of_lexed {s : String} (h : (Token.scanLine s).2 = none) :
    Expr.parse s = (Level.run s.utf8ByteSize .expression
      (Token.dropBlanks (Token.scanLine s).1)).bind Level.wholeLine := by
  have hs : Token.scanLine s = ((Token.scanLine s).1, none) := Prod.ext rfl h
  rw [Expr.parse, hs]
  simp only [Level.run, Token.dropBlanks]
  cases Parsed.expression s.utf8ByteSize _ with
  | error e => rfl
  | ok p =>
    obtain ⟨tree, rest, _⟩ := p
    cases rest <;> rfl

theorem Expr.parse_eq_ok_iff (s : String) (e : Expr) :
    Expr.parse s = .ok e ↔ (Token.scanLine s).2 = none ∧
      ∃ d : Phrase .expression, d.yield = Token.dropBlanks (Token.scanLine s).1 ∧ d.tree = e := by
  refine ⟨fun h => ?_, fun ⟨hlex, d, hy, he⟩ => ?_⟩
  · cases hlex : (Token.scanLine s).2 with
    | some err =>
      rw [Expr.parse_of_lexError hlex] at h
      cases h
    | none =>
      rw [Expr.parse_of_lexed hlex] at h
      obtain ⟨⟨e', rest⟩, hrun, hwhole⟩ := Except.bind_eq_ok.1 h
      -- the expression took every token
      cases rest with
      | cons t r => cases hwhole
      | nil =>
        cases hwhole
        obtain ⟨d, hy, he, -⟩ := Level.run_sound _ hrun
        exact ⟨rfl, d, by rw [hy, List.append_nil], he⟩
  · have hrun := Phrase.run_yield s.utf8ByteSize d [] (Phrase.endsBefore_nil d)
    rw [List.append_nil, hy] at hrun
    rw [Expr.parse_of_lexed hlex, hrun, ← he]
    rfl

/-! ## Where blanks stand -/

/-- A token without its place in the line: its kind and its literal. -/
def Token.unplaced (t : Token) : TokenKind × String :=
  (t.kind, t.literal)

theorem Token.unplaced_eq_iff {t t' : Token} :
    t'.unplaced = t.unplaced ↔ t'.kind = t.kind ∧ t'.literal = t.literal := by
  simp [Token.unplaced]

/-- A derivation reads its tokens' kinds and literals only: tokens of the same kinds and
literals, placed anywhere, have a derivation that builds the same tree. -/
theorem Phrase.exists_of_unplaced {L : Level} (d : Phrase L) :
    ∀ ts : List Token, ts.map Token.unplaced = d.yield.map Token.unplaced →
      ∃ d' : Phrase L, d'.yield = ts ∧ d'.tree = d.tree := by
  induction d with
  | assign x a v hx ha ih =>
    intro ts h
    simp only [yield, List.map_cons, List.map_eq_cons_iff] at h
    obtain ⟨x', _, rfl, hx', a', ts', rfl, ha', h⟩ := h
    rw [Token.unplaced_eq_iff] at hx' ha'
    obtain ⟨v', rfl, hv'⟩ := ih ts' h
    exact ⟨.assign x' a' v' (hx'.1.trans hx) (ha'.1.trans ha), rfl, by simp [tree, hx'.2, hv']⟩
  | plain p ih =>
    intro ts h
    obtain ⟨p', hy, ht⟩ := ih ts h
    exact ⟨.plain p', hy, ht⟩
  | operand p ih =>
    intro ts h
    obtain ⟨p', hy, ht⟩ := ih ts h
    exact ⟨.operand p', hy, ht⟩
  | binary left t o op ht hop right ihl ihr =>
    intro ts h
    simp only [yield, List.map_append, List.map_cons, List.map_eq_append_iff,
      List.map_eq_cons_iff] at h
    obtain ⟨ts₁, _, rfl, h₁, t', ts₂, rfl, ht', h₂⟩ := h
    rw [Token.unplaced_eq_iff] at ht'
    obtain ⟨left', rfl, hl⟩ := ihl ts₁ h₁
    obtain ⟨right', rfl, hr⟩ := ihr ts₂ h₂
    exact ⟨.binary left' t' o op (ht'.1.trans ht) hop right', rfl, by simp [tree, hl, hr]⟩
  | bare p ih =>
    intro ts h
    obtain ⟨p', hy, ht⟩ := ih ts h
    exact ⟨.bare p', hy, ht⟩
  | prefixed t o op ht hop p ih =>
    intro ts h
    simp only [yield, List.map_cons, List.map_eq_cons_iff] at h
    obtain ⟨t', ts', rfl, ht', h⟩ := h
    rw [Token.unplaced_eq_iff] at ht'
    obtain ⟨p', rfl, hp⟩ := ih ts' h
    exact ⟨.prefixed t' o op (ht'.1.trans ht) hop p', rfl, by simp [tree, hp]⟩
  | paren o c inner ho hc ih =>
    intro ts h
    simp only [yield, List.map_cons, List.map_append, List.map_nil, List.map_eq_cons_iff,
      List.map_eq_append_iff, List.map_eq_nil_iff] at h
    obtain ⟨o', _, rfl, ho', ts₁, _, rfl, h₁, c', _, rfl, hc', rfl⟩ := h
    rw [Token.unplaced_eq_iff] at ho' hc'
    obtain ⟨inner', rfl, hin⟩ := ih ts₁ h₁
    exact ⟨.paren o' c' inner' (ho'.1.trans ho) (hc'.1.trans hc), rfl, hin⟩
  | ident t ht =>
    intro ts h
    simp only [yield, List.map_cons, List.map_nil, List.map_eq_cons_iff,
      List.map_eq_nil_iff] at h
    obtain ⟨t', _, rfl, ht', rfl⟩ := h
    rw [Token.unplaced_eq_iff] at ht'
    exact ⟨.ident t' (ht'.1.trans ht), rfl, by simp [tree, ht'.2]⟩
  | integer t value radix ht =>
    intro ts h
    simp only [yield, List.map_cons, List.map_nil, List.map_eq_cons_iff,
      List.map_eq_nil_iff] at h
    obtain ⟨t', _, rfl, ht', rfl⟩ := h
    rw [Token.unplaced_eq_iff] at ht'
    exact ⟨.integer t' value radix (ht'.1.trans ht), rfl, rfl⟩
  | float t value ht =>
    intro ts h
    simp only [yield, List.map_cons, List.map_nil, List.map_eq_cons_iff,
      List.map_eq_nil_iff] at h
    obtain ⟨t', _, rfl, ht', rfl⟩ := h
    rw [Token.unplaced_eq_iff] at ht'
    exact ⟨.float t' value (ht'.1.trans ht), rfl, rfl⟩

/-- Where blanks stand does not change what a line reads as: another line that lexes to tokens
other than blanks of the same kinds and literals is read as the same tree. -/
theorem Expr.parse_eq_ok_of_unplaced {s s' : String} {e : Expr}
    (hlex : (Token.scanLine s').2 = none)
    (hsame : (Token.dropBlanks (Token.scanLine s').1).map Token.unplaced =
      (Token.dropBlanks (Token.scanLine s).1).map Token.unplaced)
    (h : Expr.parse s = .ok e) : Expr.parse s' = .ok e := by
  obtain ⟨-, d, hy, he⟩ := (Expr.parse_eq_ok_iff s e).1 h
  obtain ⟨d', hy', he'⟩ := d.exists_of_unplaced _ (by rw [hsame, hy])
  exact (Expr.parse_eq_ok_iff s' e).2 ⟨hlex, d', hy', he'.trans he⟩

/-- A line is read as `e` exactly when it lexes and its tokens other than blanks are a sentence
of the grammar whose derivation builds `e`; a sentence has one derivation only; and a line whose
tokens differ only in where blanks stand is read as the same tree. -/
theorem parse_eq_ok_iff_sentence (s : String) (e : Expr) :
    (Expr.parse s = .ok e ↔ (Token.scanLine s).2 = none ∧
      ∃ d : Phrase .expression, d.yield = Token.dropBlanks (Token.scanLine s).1 ∧ d.tree = e) ∧
    (∀ d₁ d₂ : Phrase .expression, d₁.yield = d₂.yield → d₁ = d₂) ∧
    ∀ s' : String, (Token.scanLine s').2 = none →
      (Token.dropBlanks (Token.scanLine s').1).map Token.unplaced =
        (Token.dropBlanks (Token.scanLine s).1).map Token.unplaced →
      Expr.parse s = .ok e → Expr.parse s' = .ok e :=
  ⟨Expr.parse_eq_ok_iff s e, Phrase.eq_of_yield_eq,
    fun _ hlex hsame h => Expr.parse_eq_ok_of_unplaced hlex hsame h⟩

end Calculator
