import Calculator.Proofs.IntegerTrees
import Calculator.Proofs.Parsing
import Calculator.Proofs.Tiling

/-! # Regrouping a chain of one operation

The parser nests a chain of one operation to the right: `a + b + c` is read as `a + (b + c)`.
This module compares that grouping with the usual one, `(a + b) + c`, on chains whose operands
are integer trees (`IntTree.rightNest`, `IntTree.leftNest`).

`and`, `or` and `xor` never fail on integers and are associative, so the two groupings always
give the same result. `+` and `*` are associative over the integers, but each step checks the
32-bit range, and the two groupings check different partial sums or products: they give the same
result exactly when both or neither overflow. On `2147483647 + 1 + - 1` the parser's grouping
gives `2147483647` and the usual one overflows (`regrouping_changes_overflow`).

The argument runs over the exact evaluation of `Calculator.Proofs.IntegerTrees`. An operation
that chains (`ChainOp`) is an associative operation of the integers followed by a check that
keeps a value in range and otherwise overflows. Either grouping evaluates the operands left to
right from the same integers by name, and gives what combining all their values at once and
checking the total gives (`ChainOp.outcome`), unless one of its own checks overflows on the way
(`ChainOp.agrees_rightNest`, `ChainOp.agrees_leftNest`).
-/

namespace Calculator

set_option autoImplicit false

/-! ## Chains and their groupings -/

namespace IntTree

/-- The chain `t op t₁ op … op tₙ` nested to the right, as the parser reads it. -/
def rightNest (op : IntBinaryOp) : IntTree → List IntTree → IntTree
  | t, [] => t
  | t, u :: us => .binary op t (rightNest op u us)

/-- The same chain nested to the left: `((t op t₁) op …) op tₙ`. -/
def leftNest (op : IntBinaryOp) : IntTree → List IntTree → IntTree
  | t, [] => t
  | t, u :: us => leftNest op (.binary op t u) us

/-- Evaluates trees in order and combines each value into `acc` with `g`, up to the first
failure. -/
def foldExact (g : Int → Int → Int) : Int → List IntTree → IntEnv → Except Failure Int × IntEnv
  | acc, [], ρ => (.ok acc, ρ)
  | acc, t :: ts, ρ =>
    match t.evalExact ρ with
    | (.ok a, ρ) => foldExact g (g acc a) ts ρ
    | (.error f, ρ) => (.error f, ρ)

variable {ρ ρ₁ : IntEnv} {a : Int} {f : Failure}

theorem foldExact_cons_of_ok {t : IntTree} (g : Int → Int → Int) (acc : Int) (ts : List IntTree)
    (h : t.evalExact ρ = (.ok a, ρ₁)) : foldExact g acc (t :: ts) ρ = foldExact g (g acc a) ts ρ₁ := by
  simp only [foldExact, h]

theorem foldExact_cons_of_error {t : IntTree} (g : Int → Int → Int) (acc : Int) (ts : List IntTree)
    (h : t.evalExact ρ = (.error f, ρ₁)) : foldExact g acc (t :: ts) ρ = (.error f, ρ₁) := by
  simp only [foldExact, h]

end IntTree

/-! ## Integers in range stay in range -/

/-- Integers by name that all fit in 32 bits, as those of a store do. -/
def IntEnv.InRange (ρ : IntEnv) : Prop :=
  ∀ n z, ρ n = some z → InInt32 z

theorem IntEnv.InRange.update {ρ : IntEnv} (h : IntEnv.InRange ρ) (name : String) {a : Int}
    (ha : InInt32 a) : IntEnv.InRange fun n => if n = name then some a else ρ n := by
  intro n z hz
  dsimp only at hz
  split at hz
  · rw [← Option.some.inj hz]
    exact ha
  · exact h n z hz

theorem Store.intView_inRange (s : Store) : IntEnv.InRange s.intView := by
  intro n z hz
  obtain ⟨v, -, hv⟩ := Option.bind_eq_some_iff.1 hz
  cases v with
  | int k =>
    rw [← Option.some.inj hv]
    exact Int32.inInt32_toInt k
  | float x => cases hv

theorem IntUnaryOp.exact_inInt32 (op : IntUnaryOp) {a z : Int} (ha : InInt32 a)
    (h : op.exact a = .ok z) : InInt32 z := by
  have hx := op.apply_exact (Int32.ofInt a)
  rw [Int32.toInt_ofInt_of_inInt32 ha, h] at hx
  exact hx.inInt32

theorem IntBinaryOp.exact_inInt32 (op : IntBinaryOp) {a b z : Int} (ha : InInt32 a)
    (hb : InInt32 b) (h : op.exact a b = .ok z) : InInt32 z := by
  have hx := op.apply_exact (Int32.ofInt a) (Int32.ofInt b)
  rw [Int32.toInt_ofInt_of_inInt32 ha, Int32.toInt_ofInt_of_inInt32 hb, h] at hx
  exact hx.inInt32

namespace IntTree

theorem evalExact_inRange : ∀ (e : IntTree) {ρ : IntEnv}, IntEnv.InRange ρ →
    (∀ z, (e.evalExact ρ).1 = .ok z → InInt32 z) ∧ IntEnv.InRange (e.evalExact ρ).2
  | .lit n, _, h => ⟨fun z hz => Except.ok.inj hz ▸ Int32.inInt32_toInt n, h⟩
  | .var name, ρ, h => by
    refine ⟨fun z hz => ?_, h⟩
    rcases hρ : ρ name with _ | z'
    · simp only [evalExact, hρ, reduceCtorEq] at hz
    · simp only [evalExact, hρ, Except.ok.injEq] at hz
      exact hz ▸ h name z' hρ
  | .unary op e, ρ, h => by
    obtain ⟨hv, hρ⟩ := evalExact_inRange e h
    rw [evalExact_unary]
    refine ⟨fun z hz => ?_, hρ⟩
    obtain ⟨a, ha, hz⟩ := Except.bind_eq_ok.1 hz
    exact op.exact_inInt32 (hv a ha) hz
  | .binary op l r, ρ, h => by
    obtain ⟨hv, hρ⟩ := evalExact_inRange l h
    rcases hl : l.evalExact ρ with ⟨f | a, ρ₁⟩
    · rw [evalExact_binary_of_error _ _ hl]
      rw [hl] at hρ
      exact ⟨fun _ hz => (by cases hz), hρ⟩
    · rw [hl] at hv hρ
      obtain ⟨hv', hρ'⟩ := evalExact_inRange r hρ
      rw [evalExact_binary_of_ok _ _ hl]
      refine ⟨fun z hz => ?_, hρ'⟩
      obtain ⟨b, hb, hz⟩ := Except.bind_eq_ok.1 hz
      exact op.exact_inInt32 (hv a rfl) (hv' b hb) hz
  | .assign name e, ρ, h => by
    obtain ⟨hv, hρ⟩ := evalExact_inRange e h
    rcases he : e.evalExact ρ with ⟨f | a, ρ₁⟩ <;> rw [he] at hv hρ
    · rw [evalExact_assign_of_error _ he]
      exact ⟨fun _ hz => (by cases hz), hρ⟩
    · rw [evalExact_assign_of_ok _ he]
      exact ⟨hv, hρ.update name (hv a rfl)⟩

end IntTree

/-! ## Operations that chain -/

/-- An operation on two integers that chains: over the integers it is an associative `combine`
followed by a `check` that keeps a value in the 32-bit range and otherwise may only overflow. -/
structure ChainOp (op : IntBinaryOp) where
  combine : Int → Int → Int
  check : Int → Except Failure Int
  exact_eq : ∀ a b, op.exact a b = check (combine a b)
  combine_assoc : ∀ a b c, combine (combine a b) c = combine a (combine b c)
  check_eq : ∀ z, check z = .ok z ∨ check z = .error .overflow
  check_of_inInt32 : ∀ z, InInt32 z → check z = .ok z

theorem exactOrOverflow_eq (z : Int) :
    exactOrOverflow z = .ok z ∨ exactOrOverflow z = .error .overflow := by
  unfold exactOrOverflow
  split
  · exact .inl rfl
  · exact .inr rfl

theorem Int.land_assoc (a b c : Int) : Int.land (Int.land a b) c = Int.land a (Int.land b c) :=
  Int.eq_of_testBit_eq fun i => by simp only [Int.testBit_land, Bool.and_assoc]

theorem Int.lor_assoc (a b c : Int) : Int.lor (Int.lor a b) c = Int.lor a (Int.lor b c) :=
  Int.eq_of_testBit_eq fun i => by simp only [Int.testBit_lor, Bool.or_assoc]

theorem Int.xor_assoc (a b c : Int) : Int.xor (Int.xor a b) c = Int.xor a (Int.xor b c) :=
  Int.eq_of_testBit_eq fun i => by simp only [Int.testBit_lxor, Bool.xor_assoc]

namespace ChainOp

/-- An associative operation, checked against the 32-bit range after each step. -/
def ofChecked {op : IntBinaryOp} (g : Int → Int → Int)
    (hg : ∀ a b, op.exact a b = exactOrOverflow (g a b))
    (hassoc : ∀ a b c, g (g a b) c = g a (g b c)) : ChainOp op where
  combine := g
  check := exactOrOverflow
  exact_eq := hg
  combine_assoc := hassoc
  check_eq := exactOrOverflow_eq
  check_of_inInt32 _ h := if_pos h

/-- An associative operation that never fails. -/
def ofTotal {op : IntBinaryOp} (g : Int → Int → Int) (hg : ∀ a b, op.exact a b = .ok (g a b))
    (hassoc : ∀ a b c, g (g a b) c = g a (g b c)) : ChainOp op where
  combine := g
  check := .ok
  exact_eq := hg
  combine_assoc := hassoc
  check_eq _ := .inl rfl
  check_of_inInt32 _ _ := rfl

theorem exists_of_assoc {op : IntBinaryOp}
    (h : op = .add ∨ op = .multiply ∨ op = .and ∨ op = .or ∨ op = .xor) :
    ∃ c : ChainOp op, (op = .and ∨ op = .or ∨ op = .xor) → ∀ z, c.check z = .ok z := by
  rcases h with rfl | rfl | rfl | rfl | rfl
  · exact ⟨ofChecked (· + ·) (fun _ _ => rfl) Int.add_assoc, by simp⟩
  · exact ⟨ofChecked (· * ·) (fun _ _ => rfl) Int.mul_assoc, by simp⟩
  · exact ⟨ofTotal Int.land (fun _ _ => rfl) Int.land_assoc, fun _ _ => rfl⟩
  · exact ⟨ofTotal Int.lor (fun _ _ => rfl) Int.lor_assoc, fun _ _ => rfl⟩
  · exact ⟨ofTotal Int.xor (fun _ _ => rfl) Int.xor_assoc, fun _ _ => rfl⟩

variable {op : IntBinaryOp} (c : ChainOp op) {ρ ρ₁ : IntEnv} {a : Int} {f : Failure}

/-- A chain evaluated at once: its operands in order, all their values combined, and one check
of the total. -/
def outcome (t : IntTree) (ts : List IntTree) (ρ : IntEnv) : Except Failure Int :=
  match t.evalExact ρ with
  | (.ok a, ρ) => (IntTree.foldExact c.combine a ts ρ).1.bind c.check
  | (.error f, _) => .error f

theorem outcome_of_ok {t : IntTree} (ts : List IntTree) (h : t.evalExact ρ = (.ok a, ρ₁)) :
    c.outcome t ts ρ = (IntTree.foldExact c.combine a ts ρ₁).1.bind c.check := by
  simp only [outcome, h]

theorem outcome_of_error {t : IntTree} (ts : List IntTree) (h : t.evalExact ρ = (.error f, ρ₁)) :
    c.outcome t ts ρ = .error f := by
  simp only [outcome, h]

theorem outcome_nil (t : IntTree) (hρ : IntEnv.InRange ρ) : c.outcome t [] ρ = (t.evalExact ρ).1 := by
  rcases ht : t.evalExact ρ with ⟨f | a, ρ₁⟩
  · exact c.outcome_of_error [] ht
  · rw [c.outcome_of_ok [] ht]
    exact c.check_of_inInt32 a ((t.evalExact_inRange hρ).1 a (by rw [ht]))

theorem foldExact_combine (a : Int) : ∀ (b : Int) (ts : List IntTree) (ρ : IntEnv),
    (IntTree.foldExact c.combine (c.combine a b) ts ρ).1 =
      (IntTree.foldExact c.combine b ts ρ).1.map (c.combine a)
  | _, [], _ => rfl
  | b, t :: ts, ρ => by
    rcases ht : t.evalExact ρ with ⟨f | v, ρ₁⟩
    · rw [IntTree.foldExact_cons_of_error _ _ _ ht, IntTree.foldExact_cons_of_error _ _ _ ht]
      rfl
    · rw [IntTree.foldExact_cons_of_ok _ _ _ ht, IntTree.foldExact_cons_of_ok _ _ _ ht,
        c.combine_assoc]
      exact foldExact_combine a (c.combine b v) ts ρ₁

/-- A result agrees with a chain's outcome, or is an overflow of a check that can fail. -/
def Agrees (r : Except Failure Int) (t : IntTree) (ts : List IntTree) (ρ : IntEnv) : Prop :=
  r = c.outcome t ts ρ ∨ (r = .error .overflow ∧ ∃ z, c.check z = .error .overflow)

variable {c}

theorem Agrees.eq_of_ne_overflow {r : Except Failure Int} {t : IntTree} {ts : List IntTree}
    (h : c.Agrees r t ts ρ) (hr : r ≠ .error .overflow) : r = c.outcome t ts ρ :=
  h.resolve_right fun h' => hr h'.1

theorem Agrees.eq_of_total {r : Except Failure Int} {t : IntTree} {ts : List IntTree}
    (h : c.Agrees r t ts ρ) (hc : ∀ z, c.check z = .ok z) : r = c.outcome t ts ρ :=
  h.resolve_right fun ⟨_, z, hz⟩ => nomatch (hc z).symm.trans hz

theorem Agrees.bind_exact {r : Except Failure Int} {t u : IntTree} {us : List IntTree}
    (h : c.Agrees r u us ρ₁) (ht : t.evalExact ρ = (.ok a, ρ₁)) :
    c.Agrees (r.bind (op.exact a)) t (u :: us) ρ := by
  rcases h with rfl | ⟨rfl, hz⟩
  · unfold Agrees
    rcases hu : u.evalExact ρ₁ with ⟨f | b, ρ₂⟩
    · left
      rw [c.outcome_of_error us hu, c.outcome_of_ok _ ht, IntTree.foldExact_cons_of_error _ _ _ hu]
      rfl
    · rw [c.outcome_of_ok us hu, c.outcome_of_ok _ ht, IntTree.foldExact_cons_of_ok _ _ _ hu,
        c.foldExact_combine]
      rcases (IntTree.foldExact c.combine b us ρ₂).1 with f | w
      · exact .inl rfl
      -- the inner chain's check either keeps its total `w` or overflows before `a` joins it
      · rcases c.check_eq w with hw | hw
        · left
          simp only [Except.bind, Except.map, hw, c.exact_eq]
        · right
          exact ⟨by simp only [Except.bind, hw], w, hw⟩
  · exact .inr ⟨rfl, hz⟩

theorem outcome_binary (t u : IntTree) (us : List IntTree) (ρ : IntEnv) :
    c.outcome (.binary op t u) us ρ = c.outcome t (u :: us) ρ ∨
      (((IntTree.binary op t u).evalExact ρ).1 = .error .overflow ∧
        ∃ z, c.check z = .error .overflow) := by
  rcases ht : t.evalExact ρ with ⟨f | a, ρ₁⟩
  · left
    rw [c.outcome_of_error us (IntTree.evalExact_binary_of_error _ _ ht), c.outcome_of_error _ ht]
  · rcases hu : u.evalExact ρ₁ with ⟨f | b, ρ₂⟩
    · have hbin : (IntTree.binary op t u).evalExact ρ = (.error f, ρ₂) := by
        rw [IntTree.evalExact_binary_of_ok _ _ ht, hu]
        rfl
      left
      rw [c.outcome_of_error us hbin, c.outcome_of_ok _ ht, IntTree.foldExact_cons_of_error _ _ _ hu]
      rfl
    · have hbin : (IntTree.binary op t u).evalExact ρ = (c.check (c.combine a b), ρ₂) := by
        rw [IntTree.evalExact_binary_of_ok _ _ ht, hu, ← c.exact_eq]
        rfl
      rcases c.check_eq (c.combine a b) with hw | hw <;> rw [hw] at hbin
      · left
        rw [c.outcome_of_ok us hbin, c.outcome_of_ok _ ht, IntTree.foldExact_cons_of_ok _ _ _ hu]
      · right
        exact ⟨by rw [hbin], _, hw⟩

variable (c)

/-- The right grouping agrees with the chain's outcome. The induction is on the operands after
the first; the rest of the chain starts from the integers the first operand leaves, which stay in
range. -/
theorem agrees_rightNest : ∀ (t : IntTree) (ts : List IntTree) {ρ : IntEnv}, IntEnv.InRange ρ →
    c.Agrees ((IntTree.rightNest op t ts).evalExact ρ).1 t ts ρ
  | t, [], _, hρ => .inl (c.outcome_nil t hρ).symm
  | t, u :: us, ρ, hρ => by
    rcases ht : t.evalExact ρ with ⟨f | a, ρ₁⟩
    · left
      rw [IntTree.rightNest, IntTree.evalExact_binary_of_error _ _ ht, c.outcome_of_error _ ht]
    · have hρ₁ : IntEnv.InRange ρ₁ := by
        have h := (t.evalExact_inRange hρ).2
        rwa [ht] at h
      rw [IntTree.rightNest, IntTree.evalExact_binary_of_ok _ _ ht]
      exact (agrees_rightNest u us hρ₁).bind_exact ht

/-- The left grouping agrees with the chain's outcome. The induction is on the operands after
the first, with the first two grouped into one operand at each step. -/
theorem agrees_leftNest : ∀ (ts : List IntTree) (t : IntTree) {ρ : IntEnv}, IntEnv.InRange ρ →
    c.Agrees ((IntTree.leftNest op t ts).evalExact ρ).1 t ts ρ
  | [], t, _, hρ => .inl (c.outcome_nil t hρ).symm
  | u :: us, t, ρ, hρ => by
    rw [IntTree.leftNest]
    rcases agrees_leftNest us (.binary op t u) hρ with h | ⟨h, hz⟩
    · rcases c.outcome_binary t u us ρ with hs | ⟨hs, hz⟩
      · exact .inl (h.trans hs)
      · right
        refine ⟨?_, hz⟩
        rw [h]
        exact c.outcome_of_error us (Prod.ext hs rfl)
    · exact .inr ⟨h, hz⟩

/-- Over the integers, the two groupings of a chain give the same result whenever neither
overflows, and always when the operation never fails. -/
theorem rightNest_eq_leftNest (t : IntTree) (ts : List IntTree) {ρ : IntEnv}
    (hρ : IntEnv.InRange ρ) :
    (((IntTree.rightNest op t ts).evalExact ρ).1 ≠ .error .overflow →
        ((IntTree.leftNest op t ts).evalExact ρ).1 ≠ .error .overflow →
        ((IntTree.rightNest op t ts).evalExact ρ).1 = ((IntTree.leftNest op t ts).evalExact ρ).1) ∧
      ((∀ z, c.check z = .ok z) →
        ((IntTree.rightNest op t ts).evalExact ρ).1 = ((IntTree.leftNest op t ts).evalExact ρ).1) :=
  ⟨fun hr hl => ((c.agrees_rightNest t ts hρ).eq_of_ne_overflow hr).trans
      ((c.agrees_leftNest ts t hρ).eq_of_ne_overflow hl).symm,
    fun hc => ((c.agrees_rightNest t ts hρ).eq_of_total hc).trans
      ((c.agrees_leftNest ts t hρ).eq_of_total hc).symm⟩

end ChainOp

/-! ## The calculator's groupings -/

theorem ExactResult.unique {r r' : Except Failure Number} {q : Except Failure Int}
    (h : ExactResult r q) (h' : ExactResult r' q) : r = r' := by
  rcases q with g | z
  · rw [h.eq_error, h'.eq_error]
  · obtain ⟨k, rfl, hk⟩ := h.eq_int
    obtain ⟨k', rfl, hk'⟩ := h'.eq_int
    rw [Int32.toInt_inj.1 (hk.trans hk'.symm)]

theorem ExactResult.ne_overflow {r : Except Failure Number} {q : Except Failure Int}
    (h : ExactResult r q) (hr : r ≠ .error .overflow) : q ≠ .error .overflow :=
  fun hq => hr (hq ▸ h).eq_error

namespace ChainOp

variable {op : IntBinaryOp}

/-- On a store of integers, the calculator's two groupings of a chain give the same result
whenever neither overflows, and always when the operation never fails. Both are exact
(`IntTree.eval_toExpr_exact`), so this is `rightNest_eq_leftNest` on the integers the store
holds. -/
theorem eval_rightNest_eq_leftNest (c : ChainOp op) (t : IntTree) (ts : List IntTree) {st : Store}
    (hst : st.AllIntegers) :
    (((IntTree.rightNest op t ts).toExpr.eval st).1 ≠ .error .overflow →
        ((IntTree.leftNest op t ts).toExpr.eval st).1 ≠ .error .overflow →
        ((IntTree.rightNest op t ts).toExpr.eval st).1 =
          ((IntTree.leftNest op t ts).toExpr.eval st).1) ∧
      ((∀ z, c.check z = .ok z) →
        ((IntTree.rightNest op t ts).toExpr.eval st).1 =
          ((IntTree.leftNest op t ts).toExpr.eval st).1) := by
  have hs := Store.HoldsInts.of_allIntegers hst
  have hR := ((IntTree.rightNest op t ts).eval_toExpr_exact hs).1
  have hL := ((IntTree.leftNest op t ts).eval_toExpr_exact hs).1
  obtain ⟨hne, htotal⟩ := c.rightNest_eq_leftNest t ts (Store.intView_inRange st)
  refine ⟨fun hr hl => ?_, fun hc => ?_⟩
  · rw [← hne (hR.ne_overflow hr) (hL.ne_overflow hl)] at hL
    exact hR.unique hL
  · rw [← htotal hc] at hL
    exact hR.unique hL

end ChainOp

/-! ## Lines that are chains -/

/-- An operand of a chain: a phrase of the unary rule (a literal or a parenthesised expression,
perhaps behind a prefix operator) whose tree is an integer tree. -/
structure ChainOperand where
  phrase : Phrase .unary
  tree : IntTree
  tree_eq : phrase.tree = tree.toExpr

/-- Operands joined by the operator `o`: the first, then each further one behind its token. -/
structure Chain (o : Operator) where
  first : ChainOperand
  links : List (Token × ChainOperand)
  sep : ∀ l ∈ links, l.1.kind = .operator o

namespace Chain

variable {o : Operator}

def tokens (c : Chain o) : List Token :=
  c.first.phrase.yield ++ c.links.flatMap fun l => l.1 :: l.2.phrase.yield

def rest (c : Chain o) : List IntTree :=
  c.links.map fun l => l.2.tree

end Chain

theorem Phrase.exists_operand (p : Phrase .unary) :
    ∀ b : Tier, ∃ d : Phrase b.operand, d.yield = p.yield ∧ d.tree = p.tree
  | .power => ⟨p, rfl, rfl⟩
  | .multiplicative => ⟨.operand (b := .power) p, rfl, rfl⟩
  | .additive => ⟨.operand (b := .multiplicative) (.operand (b := .power) p), rfl, rfl⟩

theorem Phrase.exists_expression {b : Tier} (p : Phrase (.tier b)) :
    ∃ d : Phrase .expression, d.yield = p.yield ∧ d.tree = p.tree := by
  cases b with
  | additive => exact ⟨.plain p, rfl, rfl⟩
  | multiplicative => exact ⟨.plain (.operand (b := .additive) p), rfl, rfl⟩
  | power =>
    exact ⟨.plain (.operand (b := .additive) (.operand (b := .multiplicative) p)), rfl, rfl⟩

namespace Chain

variable {o : Operator} {b : Tier} {op : IntBinaryOp}

/-- Operands joined by an operator of a tier make a phrase of that tier, nested to the right.
The induction is on the operands after the first. -/
theorem exists_phrase (hop : (o, op.toOp) ∈ b.ops) :
    ∀ (first : ChainOperand) (links : List (Token × ChainOperand)),
      (∀ l ∈ links, l.1.kind = .operator o) →
      ∃ d : Phrase (.tier b),
        d.yield = first.phrase.yield ++ links.flatMap (fun l => l.1 :: l.2.phrase.yield) ∧
          d.tree = (IntTree.rightNest op first.tree (links.map fun l => l.2.tree)).toExpr
  | first, [], _ => by
    obtain ⟨d, hy, ht⟩ := first.phrase.exists_operand b
    refine ⟨.operand d, ?_, ht.trans first.tree_eq⟩
    rw [List.flatMap_nil, List.append_nil]
    exact hy
  | first, (t, p) :: links, hsep => by
    obtain ⟨d, hy, ht⟩ := first.phrase.exists_operand b
    obtain ⟨d', hy', ht'⟩ :=
      exists_phrase hop p links fun l hl => hsep l (List.mem_cons_of_mem _ hl)
    refine ⟨.binary d t o op.toOp (hsep (t, p) List.mem_cons_self) hop d', ?_, ?_⟩
    · simp only [Phrase.yield, hy, hy', List.flatMap_cons, List.cons_append]
    · simp only [Phrase.tree, ht, ht', first.tree_eq, List.map_cons, IntTree.rightNest,
        IntTree.toExpr]

/-- A line whose tokens other than blanks are a chain joined by an operator of a tier is read
as the chain nested to the right. -/
theorem parse_eq (hop : (o, op.toOp) ∈ b.ops) (c : Chain o) {s : String}
    (hlex : (Token.scanLine s).2 = none) (htoks : Token.dropBlanks (Token.scanLine s).1 = c.tokens) :
    Expr.parse s = .ok (IntTree.rightNest op c.first.tree c.rest).toExpr := by
  obtain ⟨d, hy, ht⟩ := exists_phrase hop c.first c.links c.sep
  obtain ⟨d', hy', ht'⟩ := d.exists_expression
  refine (Expr.parse_eq_ok_iff s _).2 ⟨hlex, d', ?_, ?_⟩
  · rw [hy', hy, htoks]
    rfl
  · rw [ht', ht]
    rfl

end Chain

theorem eq_iff_overflow_iff {x y : Except Failure Number}
    (h : x ≠ .error .overflow → y ≠ .error .overflow → x = y) :
    x = y ↔ (x = .error .overflow ↔ y = .error .overflow) := by
  constructor
  · rintro rfl
    exact Iff.rfl
  · intro hiff
    by_cases hx : x = .error .overflow
    · rw [hx, hiff.1 hx]
    · exact h hx fun hy => hx (hiff.2 hy)

/-- A line that is a chain of integer operands joined by one of `+`, `*`, `and`, `or` and `xor`
is read as the chain nested to the right. On a store of integers that grouping gives the same
result as the chain nested to the left, the same number or the same failure, exactly when both
groupings or neither overflow; for `and`, `or` and `xor` it always does. -/
theorem parse_chain_regroups_unless_overflow (s : String) {o : Operator} {b : Tier}
    {op : IntBinaryOp} (hop : (o, op.toOp) ∈ b.ops)
    (hassoc : op = .add ∨ op = .multiply ∨ op = .and ∨ op = .or ∨ op = .xor) (c : Chain o)
    (hlex : (Token.scanLine s).2 = none) (htoks : Token.dropBlanks (Token.scanLine s).1 = c.tokens)
    (st : Store) (hst : st.AllIntegers) :
    Expr.parse s = .ok (IntTree.rightNest op c.first.tree c.rest).toExpr ∧
      (((IntTree.rightNest op c.first.tree c.rest).toExpr.eval st).1 =
          ((IntTree.leftNest op c.first.tree c.rest).toExpr.eval st).1 ↔
        (((IntTree.rightNest op c.first.tree c.rest).toExpr.eval st).1 = .error .overflow ↔
          ((IntTree.leftNest op c.first.tree c.rest).toExpr.eval st).1 = .error .overflow)) ∧
      ((op = .and ∨ op = .or ∨ op = .xor) →
        ((IntTree.rightNest op c.first.tree c.rest).toExpr.eval st).1 =
          ((IntTree.leftNest op c.first.tree c.rest).toExpr.eval st).1) := by
  obtain ⟨co, htotal⟩ := ChainOp.exists_of_assoc hassoc
  have hgroup := co.eval_rightNest_eq_leftNest c.first.tree c.rest hst
  exact ⟨c.parse_eq hop hlex htoks, eq_iff_overflow_iff hgroup.1, fun hbit => hgroup.2 (htotal hbit)⟩

/-! ## One line where the grouping shows -/

theorem Lexeme.operator?_plus (r : List Char) :
    Lexeme.operator? ('+' :: r) = some ⟨.operator .plus, ['+'], r, rfl, by simp⟩ := rfl

theorem Lexeme.operator?_minus (r : List Char) :
    Lexeme.operator? ('-' :: r) = some ⟨.operator .minus, ['-'], r, rfl, by simp⟩ := rfl

theorem scanLine_max_plus_one_minus_one :
    Token.scanLine "2147483647 + 1 + - 1" =
      ([⟨.integer 2147483647 .decimal, "2147483647", 0⟩, ⟨.blank, " ", 10⟩,
        ⟨.operator .plus, "+", 11⟩, ⟨.blank, " ", 12⟩, ⟨.integer 1 .decimal, "1", 13⟩,
        ⟨.blank, " ", 14⟩, ⟨.operator .plus, "+", 15⟩, ⟨.blank, " ", 16⟩,
        ⟨.operator .minus, "-", 17⟩, ⟨.blank, " ", 18⟩, ⟨.integer 1 .decimal, "1", 19⟩], none) := by
  rw [Token.scanLine, show "2147483647 + 1 + - 1".toList =
    ['2', '1', '4', '7', '4', '8', '3', '6', '4', '7', ' ', '+', ' ', '1', ' ', '+', ' ', '-',
      ' ', '1'] by decide, Token.scan]
  simp +decide [Lexeme.next, Lexeme.number, Lexeme.unprefixed, Lexeme.integer, Except.map]
  rw [Token.scan]
  simp +decide [Lexeme.next, Lexeme.run]
  rw [Token.scan]
  simp +decide [Lexeme.next, Lexeme.operator?_plus]
  rw [Token.scan]
  simp +decide [Lexeme.next, Lexeme.run]
  rw [Token.scan]
  simp +decide [Lexeme.next, Lexeme.number, Lexeme.unprefixed, Lexeme.integer, Except.map]
  rw [Token.scan]
  simp +decide [Lexeme.next, Lexeme.run]
  rw [Token.scan]
  simp +decide [Lexeme.next, Lexeme.operator?_plus]
  rw [Token.scan]
  simp +decide [Lexeme.next, Lexeme.run]
  rw [Token.scan]
  simp +decide [Lexeme.next, Lexeme.operator?_minus]
  rw [Token.scan]
  simp +decide [Lexeme.next, Lexeme.run]
  rw [Token.scan]
  simp +decide [Lexeme.next, Lexeme.number, Lexeme.unprefixed, Lexeme.integer, Except.map]
  rw [Token.scan]
  simp [Lexeme.next]

/-- `2147483647 + 1 + - 1` as a chain of `+`. -/
def maxPlusOneMinusOne : Chain .plus where
  first := ⟨.bare (.integer ⟨.integer 2147483647 .decimal, "2147483647", 0⟩ 2147483647 .decimal rfl),
    .lit 2147483647, rfl⟩
  links :=
    [(⟨.operator .plus, "+", 11⟩, ⟨.bare (.integer ⟨.integer 1 .decimal, "1", 13⟩ 1 .decimal rfl),
        .lit 1, rfl⟩),
      (⟨.operator .plus, "+", 15⟩, ⟨.prefixed ⟨.operator .minus, "-", 17⟩ .minus .negate rfl
        List.mem_cons_self (.integer ⟨.integer 1 .decimal, "1", 19⟩ 1 .decimal rfl),
        .unary .negate (.lit 1), rfl⟩)]
  sep := by
    intro l hl
    simp only [List.mem_cons, List.not_mem_nil, or_false] at hl
    rcases hl with rfl | rfl <;> rfl

theorem lexes_max_plus_one_minus_one :
    (Token.scanLine "2147483647 + 1 + - 1").2 = none ∧
      Token.dropBlanks (Token.scanLine "2147483647 + 1 + - 1").1 = maxPlusOneMinusOne.tokens := by
  rw [scanLine_max_plus_one_minus_one]
  exact ⟨rfl, rfl⟩

/-- `2147483647 + 1 + - 1` on the empty store, where the usual grouping overflows and the
parser's does not. -/
theorem parse_chain_regroups_max_plus_one_minus_one :
    ((Operator.plus, IntBinaryOp.add.toOp) ∈ Tier.additive.ops ∧
      (IntBinaryOp.add = .add ∨ IntBinaryOp.add = .multiply ∨ IntBinaryOp.add = .and ∨
        IntBinaryOp.add = .or ∨ IntBinaryOp.add = .xor) ∧
      (Token.scanLine "2147483647 + 1 + - 1").2 = none ∧
      Token.dropBlanks (Token.scanLine "2147483647 + 1 + - 1").1 = maxPlusOneMinusOne.tokens ∧
      Store.empty.AllIntegers) ∧
    (Expr.parse "2147483647 + 1 + - 1" = .ok (IntTree.rightNest .add maxPlusOneMinusOne.first.tree
        maxPlusOneMinusOne.rest).toExpr ∧
      (((IntTree.rightNest .add maxPlusOneMinusOne.first.tree maxPlusOneMinusOne.rest).toExpr.eval
          Store.empty).1 =
          ((IntTree.leftNest .add maxPlusOneMinusOne.first.tree maxPlusOneMinusOne.rest).toExpr.eval
            Store.empty).1 ↔
        (((IntTree.rightNest .add maxPlusOneMinusOne.first.tree maxPlusOneMinusOne.rest).toExpr.eval
            Store.empty).1 = .error .overflow ↔
          ((IntTree.leftNest .add maxPlusOneMinusOne.first.tree maxPlusOneMinusOne.rest).toExpr.eval
            Store.empty).1 = .error .overflow)) ∧
      ((IntBinaryOp.add = .and ∨ IntBinaryOp.add = .or ∨ IntBinaryOp.add = .xor) →
        ((IntTree.rightNest .add maxPlusOneMinusOne.first.tree maxPlusOneMinusOne.rest).toExpr.eval
          Store.empty).1 =
          ((IntTree.leftNest .add maxPlusOneMinusOne.first.tree maxPlusOneMinusOne.rest).toExpr.eval
            Store.empty).1)) := by
  have hop : (Operator.plus, IntBinaryOp.add.toOp) ∈ Tier.additive.ops := List.mem_cons_self
  have hassoc : IntBinaryOp.add = .add ∨ IntBinaryOp.add = .multiply ∨ IntBinaryOp.add = .and ∨
      IntBinaryOp.add = .or ∨ IntBinaryOp.add = .xor := .inl rfl
  have hst : Store.empty.AllIntegers := fun _ _ h => nomatch h
  obtain ⟨hlex, htoks⟩ := lexes_max_plus_one_minus_one
  exact ⟨⟨hop, hassoc, hlex, htoks, hst⟩, parse_chain_regroups_unless_overflow _ hop hassoc
    maxPlusOneMinusOne hlex htoks Store.empty hst⟩

/-- Grouping shows on `2147483647 + 1 + - 1`: the line is read as `2147483647 + (1 + -1)`, which
is `2147483647`, while `(2147483647 + 1) + -1` overflows at its first sum. -/
theorem regrouping_changes_overflow :
    Expr.parse "2147483647 + 1 + - 1" =
        .ok (.binary .add (.lit (.int 2147483647))
          (.binary .add (.lit (.int 1)) (.unary .negate (.lit (.int 1))))) ∧
      ((Expr.binary .add (.lit (.int 2147483647))
          (.binary .add (.lit (.int 1)) (.unary .negate (.lit (.int 1))))).eval Store.empty).1 =
        .ok (.int 2147483647) ∧
      ((Expr.binary .add (.binary .add (.lit (.int 2147483647)) (.lit (.int 1)))
          (.unary .negate (.lit (.int 1)))).eval Store.empty).1 = .error .overflow := by
  have hop : (Operator.plus, IntBinaryOp.add.toOp) ∈ Tier.additive.ops := List.mem_cons_self
  obtain ⟨hlex, htoks⟩ := lexes_max_plus_one_minus_one
  refine ⟨?_, rfl, rfl⟩
  rw [maxPlusOneMinusOne.parse_eq hop hlex htoks]
  rfl

end Calculator
