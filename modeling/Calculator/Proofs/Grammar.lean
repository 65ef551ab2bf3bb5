import Calculator.Expr.Parse

/-! # The grammar of a line, and the parser level by level

The grammar the parser reads, written as derivations (`Phrase`): a parse tree whose leaves are
the tokens of the line in order (`Phrase.yield`) and which builds an expression tree
(`Phrase.tree`). Its rules are

```
expression     := ident "<-" additive | additive
additive       := multiplicative (("+" | "-" | "and" | "xor") additive)?
multiplicative := power (("*" | "/" | "or") multiplicative)?
power          := unary ("^" power)?
unary          := ("-" | "not" | "factorial" | "log" | "ln" | "sqrt"
                   | "sin" | "cos" | "tan" | "ctg")? primary
primary        := "(" expression ")" | ident | integer | float
```

The three binary rules have one shape and are one constructor each, for a `Tier`; which
operators a tier reads, and the operation each stands for, is the table `Tier.ops`, and the
operators before a primary are `prefixOps`. These tables are the grammar's, read off the rules
above; `Tier.opOf_eq_some_iff` and `unaryOp?_eq_some_iff` say the parser's own tables agree.

On the parser's side, `Level.run` is the rule of a level as a function from tokens to the tree
read and the tokens left, and `Level.run_expression` to `Level.run_primary` restate each rule
in that form, so that no later proof opens the parser's definitions. `Level.induction` is the
induction the parser's own recursion follows: fewer tokens, or the same tokens at a lower level.
-/

namespace Calculator

set_option autoImplicit false

/-! ## Levels and operator tables -/

/-- The binary rules of the grammar, loosest first. -/
inductive Tier where
  | additive
  | multiplicative
  | power
  deriving DecidableEq, Repr

/-- The rules of the grammar. -/
inductive Level where
  | expression
  | tier (b : Tier)
  | unary
  | primary
  deriving DecidableEq, Repr

namespace Tier

def operand : Tier → Level
  | .additive => .tier .multiplicative
  | .multiplicative => .tier .power
  | .power => .unary

/-- The operators a tier reads between its operands, with the operation each stands for. -/
def ops : Tier → List (Operator × BinaryOp)
  | .additive => [(.plus, .add), (.minus, .subtract), (.and, .and), (.xor, .xor)]
  | .multiplicative => [(.star, .multiply), (.slash, .divide), (.or, .or)]
  | .power => [(.caret, .power)]

/-- The parser's table for a tier: the operation a token stands for between two operands. -/
def opOf : Tier → TokenKind → Option BinaryOp
  | .additive, k => additiveOp? k
  | .multiplicative, k => multiplicativeOp? k
  | .power, k => if k.isCaret then some .power else none

theorem opOf_eq_some_iff (b : Tier) (k : TokenKind) (op : BinaryOp) :
    b.opOf k = some op ↔ ∃ o, k = .operator o ∧ (o, op) ∈ b.ops := by
  cases k with
  | operator o => cases b <;> cases o <;> simp [opOf, ops, additiveOp?,
      multiplicativeOp?, TokenKind.isCaret, eq_comm]
  | _ => cases b <;> simp [opOf, additiveOp?, multiplicativeOp?, TokenKind.isCaret]

theorem opOf_operator {b : Tier} {t : Token} {o : Operator} {op : BinaryOp}
    (ht : t.kind = .operator o) (hop : (o, op) ∈ b.ops) : b.opOf t.kind = some op :=
  (opOf_eq_some_iff b t.kind op).2 ⟨o, ht, hop⟩

theorem ops_functional {b : Tier} {o : Operator} {op op' : BinaryOp} (h : (o, op) ∈ b.ops)
    (h' : (o, op') ∈ b.ops) : op = op' := by
  have e := (opOf_eq_some_iff b (.operator o) op).2 ⟨o, rfl, h⟩
  have e' := (opOf_eq_some_iff b (.operator o) op').2 ⟨o, rfl, h'⟩
  exact Option.some.inj (e.symm.trans e')

end Tier

/-- The operators that can stand before a primary, with the operation each stands for. -/
def prefixOps : List (Operator × UnaryOp) :=
  [(.minus, .negate), (.not, .not), (.factorial, .factorial), (.log, .log), (.ln, .ln),
    (.sqrt, .sqrt), (.sin, .sin), (.cos, .cos), (.tan, .tan), (.ctg, .ctg)]

theorem unaryOp?_eq_some_iff (o : Operator) (op : UnaryOp) :
    unaryOp? o = some op ↔ (o, op) ∈ prefixOps := by
  cases o <;> simp [unaryOp?, prefixOps, eq_comm]

theorem prefixOps_functional {o : Operator} {op op' : UnaryOp} (h : (o, op) ∈ prefixOps)
    (h' : (o, op') ∈ prefixOps) : op = op' := by
  rw [← unaryOp?_eq_some_iff] at h h'
  exact Option.some.inj (h.symm.trans h')

/-! ## Derivations -/

/-- A derivation of the grammar from one of its rules, as a parse tree. -/
inductive Phrase : Level → Type where
  | assign (target arrow : Token) (value : Phrase (.tier .additive))
      (htarget : target.kind = .ident) (harrow : arrow.kind = .operator .assign) :
      Phrase .expression
  | plain (p : Phrase (.tier .additive)) : Phrase .expression
  | operand {b : Tier} (p : Phrase b.operand) : Phrase (.tier b)
  | binary {b : Tier} (left : Phrase b.operand) (t : Token) (o : Operator) (op : BinaryOp)
      (ht : t.kind = .operator o) (hop : (o, op) ∈ b.ops) (right : Phrase (.tier b)) :
      Phrase (.tier b)
  | bare (p : Phrase .primary) : Phrase .unary
  | prefixed (t : Token) (o : Operator) (op : UnaryOp) (ht : t.kind = .operator o)
      (hop : (o, op) ∈ prefixOps) (p : Phrase .primary) : Phrase .unary
  | paren (o c : Token) (inner : Phrase .expression) (ho : o.kind = .openParen)
      (hc : c.kind = .closeParen) : Phrase .primary
  | ident (t : Token) (ht : t.kind = .ident) : Phrase .primary
  | integer (t : Token) (value : Int32) (radix : Radix) (ht : t.kind = .integer value radix) :
      Phrase .primary
  | float (t : Token) (value : Float) (ht : t.kind = .float value) : Phrase .primary

namespace Phrase

/-- The tokens a derivation derives, in order. -/
def yield {L : Level} : Phrase L → List Token
  | .assign target arrow value _ _ => target :: arrow :: value.yield
  | .plain p => p.yield
  | .operand p => p.yield
  | .binary left t _ _ _ _ right => left.yield ++ t :: right.yield
  | .bare p => p.yield
  | .prefixed t _ _ _ _ p => t :: p.yield
  | .paren o c inner _ _ => o :: (inner.yield ++ [c])
  | .ident t _ => [t]
  | .integer t _ _ _ => [t]
  | .float t _ _ => [t]

/-- The expression tree a derivation builds: binary rules nest to the right, parentheses leave
no node, and a leaf is its token's name or value. -/
def tree {L : Level} : Phrase L → Expr
  | .assign target _ value _ _ => .assign target.literal value.tree
  | .plain p => p.tree
  | .operand p => p.tree
  | .binary left _ _ op _ _ right => .binary op left.tree right.tree
  | .bare p => p.tree
  | .prefixed _ _ op _ _ p => .unary op p.tree
  | .paren _ _ inner _ _ => inner.tree
  | .ident t _ => .var t.literal
  | .integer _ value _ _ => .lit (.int value)
  | .float _ value _ => .lit (.float value)

theorem yield_ne_nil {L : Level} : ∀ d : Phrase L, d.yield ≠ []
  | .assign .. | .prefixed .. | .paren .. | .ident .. | .integer .. | .float .. => by
    simp [yield]
  | .plain p => yield_ne_nil p
  | .operand p => yield_ne_nil p
  | .bare p => yield_ne_nil p
  | .binary .. => by simp [yield]

theorem primary_head : ∀ d : Phrase .primary, ∃ t r, d.yield = t :: r ∧ ∀ o, t.kind ≠ .operator o
  | .paren o c _ ho _ => ⟨o, _, rfl, by simp [ho]⟩
  | .ident t ht => ⟨t, [], rfl, by simp [ht]⟩
  | .integer t _ _ ht => ⟨t, [], rfl, by simp [ht]⟩
  | .float t _ ht => ⟨t, [], rfl, by simp [ht]⟩

end Phrase

/-! ## What may follow a phrase -/

/-- Whether a token would carry a phrase of a level further: an operator of its tier or of a
tighter one. A primary and a unary phrase are never carried further. -/
def Level.takes : Level → TokenKind → Bool
  | .expression, k => (Tier.additive.opOf k).isSome || (Tier.multiplicative.opOf k).isSome ||
      (Tier.power.opOf k).isSome
  | .tier .additive, k => (Tier.additive.opOf k).isSome || (Tier.multiplicative.opOf k).isSome ||
      (Tier.power.opOf k).isSome
  | .tier .multiplicative, k => (Tier.multiplicative.opOf k).isSome || (Tier.power.opOf k).isSome
  | .tier .power, k => (Tier.power.opOf k).isSome
  | .unary, _ => false
  | .primary, _ => false

/-- The tokens after a phrase of a level do not carry it further. -/
def Level.Follows (L : Level) (rest : List Token) : Prop :=
  ∀ t ∈ rest.head?, L.takes t.kind = false

theorem Level.follows_nil (L : Level) : L.Follows [] := by
  simp [Level.Follows]

theorem Level.takes_tier (b : Tier) (k : TokenKind) :
    (Level.tier b).takes k = ((b.opOf k).isSome || b.operand.takes k) := by
  cases b <;> simp [Level.takes, Tier.operand, Bool.or_assoc]

theorem Level.follows_operand {b : Tier} {rest : List Token} (h : (Level.tier b).Follows rest) :
    b.operand.Follows rest := by
  intro t ht
  have := h t ht
  rw [Level.takes_tier, Bool.or_eq_false_iff] at this
  exact this.2

theorem Tier.operand_takes_op {b : Tier} {o : Operator} {op : BinaryOp} (hop : (o, op) ∈ b.ops) :
    b.operand.takes (.operator o) = false := by
  cases b <;> simp only [Tier.ops, List.mem_cons, Prod.mk.injEq, List.not_mem_nil, or_false] at hop
  · rcases hop with ⟨rfl, -⟩ | ⟨rfl, -⟩ | ⟨rfl, -⟩ | ⟨rfl, -⟩ <;> rfl
  · rcases hop with ⟨rfl, -⟩ | ⟨rfl, -⟩ | ⟨rfl, -⟩ <;> rfl
  · obtain ⟨rfl, -⟩ := hop
    rfl

/-! ## The parser level by level -/

def Parsed.view {toks : List Token} (p : Parsed toks) : Expr × List Token :=
  (p.tree, p.rest)

/-- The parser's rule at a level, giving the tree read and the tokens left; `stop` is the
length of the line, where an error at its end points. -/
def Level.run (stop : Nat) : Level → List Token → Except ParseError (Expr × List Token)
  | .expression, toks => (Parsed.expression stop toks).map Parsed.view
  | .tier .additive, toks => (Parsed.additive stop toks).map Parsed.view
  | .tier .multiplicative, toks => (Parsed.multiplicative stop toks).map Parsed.view
  | .tier .power, toks => (Parsed.power stop toks).map Parsed.view
  | .unary, toks => (Parsed.unary stop toks).map Parsed.view
  | .primary, toks => (Parsed.primary stop toks).map Parsed.view

/-- How a tier goes on after an operand `e`: its operator and the tier again, or nothing. -/
def Tier.extend (b : Tier) (stop : Nat) (e : Expr) :
    List Token → Except ParseError (Expr × List Token)
  | [] => .ok (e, [])
  | t :: r =>
    match b.opOf t.kind with
    | some op => (Level.run stop (.tier b) r).map fun p => (.binary op e p.1, p.2)
    | none => .ok (e, t :: r)

/-- How a parenthesis closes after the expression `e` read inside it. -/
def closeParen (stop : Nat) (e : Expr) : List Token → Except ParseError (Expr × List Token)
  | [] => .error (.grammar .expectedClose ⟨stop, 0⟩)
  | c :: r => if c.kind.isClose then .ok (e, r) else .error (.grammar .expectedClose c.span)

namespace Level

variable (stop : Nat)

theorem run_expression_assign {x a : Token} {r : List Token} (hx : x.kind = .ident)
    (ha : a.kind = .operator .assign) :
    run stop .expression (x :: a :: r) =
      (run stop (.tier .additive) r).map fun p => (.assign x.literal p.1, p.2) := by
  obtain ⟨xk, xl, xo⟩ := x
  obtain ⟨ak, al, ao⟩ := a
  dsimp only at hx ha
  subst hx ha
  simp only [run, Parsed.expression]
  cases Parsed.additive stop r <;> rfl

theorem run_expression_of_not_assign {toks : List Token}
    (h : ∀ x a r, toks = x :: a :: r → x.kind = .ident → a.kind ≠ .operator .assign) :
    run stop .expression toks = run stop (.tier .additive) toks := by
  simp only [run]
  rw [Parsed.expression.eq_def]
  split
  · exact absurd rfl (h _ _ _ rfl rfl)
  · rfl

theorem run_tier (b : Tier) (toks : List Token) :
    run stop (.tier b) toks = (run stop b.operand toks).bind fun p => b.extend stop p.1 p.2 := by
  cases b with
  | additive =>
    simp only [run, Tier.operand]
    rw [Parsed.additive]
    cases Parsed.multiplicative stop toks with
    | error e => rfl
    | ok left =>
      show _ = Tier.additive.extend stop left.tree left.rest
      simp only [bind, Except.bind]
      split
      · rename_i t r hr
        simp only [Tier.extend, Tier.opOf, hr]
        cases additiveOp? t.kind with
        | none => simp only [pure, Except.pure, Except.map, Parsed.view, hr]
        | some op =>
          simp only [run]
          cases Parsed.additive stop r <;> rfl
      · rename_i hr
        simp only [Tier.extend, pure, Except.pure, Except.map, Parsed.view, hr]
  | multiplicative =>
    simp only [run, Tier.operand]
    rw [Parsed.multiplicative]
    cases Parsed.power stop toks with
    | error e => rfl
    | ok left =>
      show _ = Tier.multiplicative.extend stop left.tree left.rest
      simp only [bind, Except.bind]
      split
      · rename_i t r hr
        simp only [Tier.extend, Tier.opOf, hr]
        cases multiplicativeOp? t.kind with
        | none => simp only [pure, Except.pure, Except.map, Parsed.view, hr]
        | some op =>
          simp only [run]
          cases Parsed.multiplicative stop r <;> rfl
      · rename_i hr
        simp only [Tier.extend, pure, Except.pure, Except.map, Parsed.view, hr]
  | power =>
    simp only [run, Tier.operand]
    rw [Parsed.power]
    cases Parsed.unary stop toks with
    | error e => rfl
    | ok base =>
      show _ = Tier.power.extend stop base.tree base.rest
      simp only [bind, Except.bind]
      split
      · rename_i t r hr
        simp only [Tier.extend, Tier.opOf, hr]
        cases t.kind.isCaret with
        | false => simp [Except.map, Parsed.view, pure, Except.pure, hr]
        | true =>
          simp only [run, if_true]
          cases Parsed.power stop r <;> rfl
      · rename_i hr
        simp only [Tier.extend, pure, Except.pure, Except.map, Parsed.view, hr]

theorem run_unary_nil : run stop .unary [] = run stop .primary [] := by
  simp only [run]
  rw [Parsed.unary]

theorem run_unary_operator {t : Token} {r : List Token} {o : Operator} {op : UnaryOp}
    (ht : t.kind = .operator o) (hop : unaryOp? o = some op) :
    run stop .unary (t :: r) = (run stop .primary r).map fun p => (.unary op p.1, p.2) := by
  simp only [run]
  rw [Parsed.unary]
  simp only [ht, hop]
  cases Parsed.primary stop r <;> rfl

theorem run_unary_unexpected {t : Token} {r : List Token} {o : Operator}
    (ht : t.kind = .operator o) (hop : unaryOp? o = none) :
    run stop .unary (t :: r) = .error (.grammar (.unexpectedOperator o) t.span) := by
  simp only [run]
  rw [Parsed.unary]
  simp only [ht, hop]
  rfl

theorem run_unary_of_not_operator {t : Token} {r : List Token} (ht : ∀ o, t.kind ≠ .operator o) :
    run stop .unary (t :: r) = run stop .primary (t :: r) := by
  simp only [run]
  rw [Parsed.unary]
  split
  · rename_i o h
    exact absurd h (ht o)
  · rfl

theorem run_primary_nil : run stop .primary [] = .error (.grammar .unexpectedEnd ⟨stop, 0⟩) := by
  simp only [run]
  rw [Parsed.primary]
  rfl

theorem run_primary_paren {t : Token} {r : List Token} (ht : t.kind = .openParen) :
    run stop .primary (t :: r) =
      (run stop .expression r).bind fun p => closeParen stop p.1 p.2 := by
  simp only [run]
  rw [Parsed.primary]
  simp only [ht]
  cases Parsed.expression stop r with
  | error e => rfl
  | ok inner =>
    show _ = closeParen stop inner.tree inner.rest
    simp only [bind, Except.bind]
    split
    · rename_i c r' hr
      simp only [closeParen, hr]
      cases c.kind.isClose <;> rfl
    · rename_i hr
      simp only [closeParen, hr]
      rfl

theorem run_primary_ident {t : Token} {r : List Token} (ht : t.kind = .ident) :
    run stop .primary (t :: r) = .ok (.var t.literal, r) := by
  simp only [run]
  rw [Parsed.primary]
  simp only [ht]
  rfl

theorem run_primary_integer {t : Token} {r : List Token} {value : Int32} {radix : Radix}
    (ht : t.kind = .integer value radix) :
    run stop .primary (t :: r) = .ok (.lit (.int value), r) := by
  simp only [run]
  rw [Parsed.primary]
  simp only [ht]
  rfl

theorem run_primary_float {t : Token} {r : List Token} {value : Float}
    (ht : t.kind = .float value) :
    run stop .primary (t :: r) = .ok (.lit (.float value), r) := by
  simp only [run]
  rw [Parsed.primary]
  simp only [ht]
  rfl

theorem run_primary_end {t : Token} {r : List Token} (ht : t.kind = .endOfInput) :
    run stop .primary (t :: r) = .error (.grammar .unexpectedEnd t.span) := by
  simp only [run]
  rw [Parsed.primary]
  simp only [ht]
  rfl

theorem run_primary_not_literal {t : Token} {r : List Token}
    (ht : t.kind = .closeParen ∨ t.kind = .blank ∨ ∃ o, t.kind = .operator o) :
    run stop .primary (t :: r) = .error (.grammar .notLiteral t.span) := by
  simp only [run]
  rw [Parsed.primary]
  rcases ht with ht | ht | ⟨o, ht⟩ <;> simp only [ht] <;> rfl

theorem extend_of_follows {b : Tier} {e : Expr} {rest : List Token} (h : (tier b).Follows rest) :
    b.extend stop e rest = .ok (e, rest) := by
  cases rest with
  | nil => rfl
  | cons t r =>
    have ht := h t rfl
    rw [takes_tier, Bool.or_eq_false_iff, Option.isSome_eq_false_iff,
      Option.isNone_iff_eq_none] at ht
    simp only [Tier.extend, ht.1]

theorem run_tier_of_operand {b : Tier} {toks rest : List Token} {e : Expr}
    (h : run stop b.operand toks = .ok (e, rest)) (hf : (tier b).Follows rest) :
    run stop (.tier b) toks = .ok (e, rest) := by
  rw [run_tier, h]
  exact extend_of_follows stop hf

/-- The order of the parser's recursion on levels: an operand's level is lower. -/
def rank : Level → Nat
  | .expression => 5
  | .tier .additive => 4
  | .tier .multiplicative => 3
  | .tier .power => 2
  | .unary => 1
  | .primary => 0

theorem rank_operand (b : Tier) : b.operand.rank < (tier b).rank := by
  cases b <;> decide

/-- Induction along the parser's recursion: a property of a level on some tokens follows from
the property on fewer tokens at any level and on the same tokens at lower levels. -/
theorem induction {P : Level → List Token → Prop}
    (step : ∀ L toks, (∀ L' toks', toks'.length < toks.length → P L' toks') →
      (∀ L', L'.rank < L.rank → P L' toks) → P L toks)
    (L : Level) (toks : List Token) : P L toks := by
  induction hn : toks.length using Nat.strongRecOn generalizing L toks with
  | _ n ihn =>
    induction hr : L.rank using Nat.strongRecOn generalizing L with
    | _ k ihk =>
      apply step
      · intro L' toks' hlt
        exact ihn toks'.length (hn ▸ hlt) L' toks' rfl
      · intro L' hlt
        exact ihk L'.rank (hr ▸ hlt) L' rfl

/-- Induction along the parser's rules: a property of every level on all tokens follows from one
step per rule, given the property where that rule calls: on fewer tokens at the rule it reads
next, and on the same tokens at the rule below. -/
theorem induction_rules {P : Level → List Token → Prop}
    (hexpression : ∀ toks, (∀ toks', toks'.length < toks.length → P (.tier .additive) toks') →
      P (.tier .additive) toks → P .expression toks)
    (htier : ∀ b toks, (∀ toks', toks'.length < toks.length → P (.tier b) toks') →
      P b.operand toks → P (.tier b) toks)
    (hunary : ∀ toks, (∀ toks', toks'.length < toks.length → P .primary toks') →
      P .primary toks → P .unary toks)
    (hprimary : ∀ toks, (∀ toks', toks'.length < toks.length → P .expression toks') →
      P .primary toks)
    (L : Level) (toks : List Token) : P L toks := by
  induction L, toks using Level.induction with
  | step L toks shorter lower =>
    cases L with
    | expression => exact hexpression toks (fun t ht => shorter _ t ht) (lower _ (by decide))
    | tier b => exact htier b toks (fun t ht => shorter _ t ht) (lower _ (rank_operand b))
    | unary => exact hunary toks (fun t ht => shorter _ t ht) (lower _ (by decide))
    | primary => exact hprimary toks (fun t ht => shorter _ t ht)

end Level

end Calculator
