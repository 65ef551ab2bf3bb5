import Calculator.Proofs.ExactIntegers
import Calculator.Proofs.Footprint

/-! # Integer trees evaluate exactly

A tree built from integer literals, variables, assignments and the operations that take
integers to integers (`IntTree`) has an evaluation over the mathematical integers
(`IntTree.evalExact`): subtrees run left to right against integers by name, the first failure
ends the evaluation, and each operation is the exact one of `Calculator.Proofs.ExactIntegers`,
which checks the 32-bit range where the calculator does.

On a store that holds only integers, the calculator's evaluation of such a tree is this one:
the same failure, or a 32-bit integer whose value is the exact result, and a store that again
holds only integers, the ones the exact evaluation leaves (`eval_integer_tree_exact`). So no
integer operation ever wraps, however deep the tree. The proof is a simulation
(`IntTree.eval_toExpr_exact`) under the relation `Store.HoldsInts` between a store and integers
by name, by induction on the tree, with one lemma per operation doing the arithmetic.
-/

namespace Calculator

set_option autoImplicit false

/-! ## Integer trees and their exact evaluation -/

/-- Trees of integers: integer literals, variables, assignments, and the operations that take
integers to integers. -/
inductive IntTree where
  | lit (n : Int32)
  | var (name : String)
  | unary (op : IntUnaryOp) (operand : IntTree)
  | binary (op : IntBinaryOp) (left right : IntTree)
  | assign (name : String) (value : IntTree)

/-- Integers by name. -/
abbrev IntEnv := String → Option Int

namespace IntTree

/-- The calculator's tree for an integer tree. -/
def toExpr : IntTree → Expr
  | .lit n => .lit (.int n)
  | .var name => .var name
  | .unary op e => .unary op.toOp e.toExpr
  | .binary op l r => .binary op.toOp l.toExpr r.toExpr
  | .assign name e => .assign name e.toExpr

/-- Exact evaluation over the integers, with the integers by name after it: subtrees left to
right, the first failure ending the evaluation; a name with no integer fails as an unset
variable, and an assignment gives its value to its name. -/
def evalExact : IntTree → IntEnv → Except Failure Int × IntEnv
  | .lit n, ρ => (.ok n.toInt, ρ)
  | .var name, ρ =>
    (match ρ name with
      | some z => .ok z
      | none => .error .unboundVariable, ρ)
  | .unary op e, ρ =>
    match e.evalExact ρ with
    | (.ok a, ρ) => (op.exact a, ρ)
    | (.error f, ρ) => (.error f, ρ)
  | .binary op l r, ρ =>
    match l.evalExact ρ with
    | (.ok a, ρ) =>
      match r.evalExact ρ with
      | (.ok b, ρ) => (op.exact a b, ρ)
      | (.error f, ρ) => (.error f, ρ)
    | (.error f, ρ) => (.error f, ρ)
  | .assign name e, ρ =>
    match e.evalExact ρ with
    | (.ok a, ρ) => (.ok a, fun n => if n = name then some a else ρ n)
    | (.error f, ρ) => (.error f, ρ)

variable {ρ ρ₁ : IntEnv} {a : Int} {f : Failure}

theorem evalExact_unary (op : IntUnaryOp) (e : IntTree) (ρ : IntEnv) :
    (unary op e).evalExact ρ = ((e.evalExact ρ).1.bind op.exact, (e.evalExact ρ).2) := by
  simp only [evalExact]
  rcases e.evalExact ρ with ⟨_ | _, _⟩ <;> rfl

theorem evalExact_binary_of_error {l : IntTree} (op : IntBinaryOp) (r : IntTree)
    (h : l.evalExact ρ = (.error f, ρ₁)) : (binary op l r).evalExact ρ = (.error f, ρ₁) := by
  simp only [evalExact, h]

theorem evalExact_binary_of_ok {l : IntTree} (op : IntBinaryOp) (r : IntTree)
    (h : l.evalExact ρ = (.ok a, ρ₁)) :
    (binary op l r).evalExact ρ = ((r.evalExact ρ₁).1.bind (op.exact a), (r.evalExact ρ₁).2) := by
  simp only [evalExact, h]
  rcases r.evalExact ρ₁ with ⟨_ | _, _⟩ <;> rfl

theorem evalExact_assign_of_error {e : IntTree} (name : String) (h : e.evalExact ρ = (.error f, ρ₁)) :
    (assign name e).evalExact ρ = (.error f, ρ₁) := by
  simp only [evalExact, h]

theorem evalExact_assign_of_ok {e : IntTree} (name : String) (h : e.evalExact ρ = (.ok a, ρ₁)) :
    (assign name e).evalExact ρ = (.ok a, fun n => if n = name then some a else ρ₁ n) := by
  simp only [evalExact, h]

end IntTree

/-! ## Stores that hold integers -/

/-- A store holds integers by name when each name is unset in both or holds, as a 32-bit
integer, exactly the integer given. -/
def Store.HoldsInts (s : Store) (ρ : IntEnv) : Prop :=
  ∀ n, Option.Rel Number.IsExactly (s.get? n) (ρ n)

/-- Every number a store holds is an integer. -/
def Store.AllIntegers (s : Store) : Prop :=
  ∀ n v, s.get? n = some v → v.kind = .integer

def Number.intValue? : Number → Option Int
  | .int k => some k.toInt
  | .float _ => none

def Store.intView (s : Store) : IntEnv :=
  fun n => (s.get? n).bind Number.intValue?

namespace Store.HoldsInts

variable {s : Store} {ρ : IntEnv}

theorem set (h : s.HoldsInts ρ) (name : String) {k : Int32} {z : Int} (hk : k.toInt = z) :
    (s.set name (.int k)).HoldsInts fun n => if n = name then some z else ρ n := by
  intro n
  simp only [get?_set_apply]
  split
  · exact Option.Rel.some (show (Number.int k).IsExactly z from hk)
  · exact h n

theorem of_allIntegers (h : s.AllIntegers) : s.HoldsInts s.intView := by
  intro n
  rcases hget : s.get? n with _ | v
  · simp only [intView, hget, Option.bind_none]
    exact Option.Rel.none
  · have hv := h n v hget
    cases v with
    | int k => simp only [intView, hget, Option.bind_some, Number.intValue?]; exact Option.Rel.some rfl
    | float x => cases hv

theorem allIntegers (h : s.HoldsInts ρ) : s.AllIntegers := by
  intro n v hget
  have hn := h n
  rw [hget] at hn
  generalize ρ n = o at hn
  cases hn with
  | some hv =>
    cases v with
    | int k => rfl
    | float x => exact absurd hv id

theorem intView_eq (h : s.HoldsInts ρ) : s.intView = ρ := by
  funext n
  have hn := h n
  simp only [Store.intView]
  generalize s.get? n = o at hn ⊢
  generalize ρ n = o' at hn ⊢
  cases hn with
  | none => rfl
  | some hv =>
    rename_i v z
    cases v with
    | int k => exact congrArg some hv
    | float x => exact absurd hv id

end Store.HoldsInts

/-! ## The simulation -/

theorem ExactResult.eq_error {r : Except Failure Number} {f : Failure}
    (h : ExactResult r (.error f)) : r = .error f := by
  rcases r with g | v
  · exact congrArg _ h
  · cases h

theorem ExactResult.eq_int {r : Except Failure Number} {z : Int} (h : ExactResult r (.ok z)) :
    ∃ k : Int32, r = .ok (.int k) ∧ k.toInt = z := by
  rcases r with g | ⟨k | x⟩
  · cases h
  · exact ⟨k, rfl, h⟩
  · cases h

theorem ExactResult.fst_cases {σ τ : Type} {p : Except Failure Number × σ}
    {q : Except Failure Int × τ} (h : ExactResult p.1 q.1) :
    (∃ f, p = (.error f, p.2) ∧ q = (.error f, q.2)) ∨
      ∃ k : Int32, p = (.ok (.int k), p.2) ∧ q = (.ok k.toInt, q.2) := by
  rcases p with ⟨r, s⟩
  rcases q with ⟨g | z, ρ⟩ <;> dsimp only at h
  · obtain rfl := h.eq_error
    exact .inl ⟨g, rfl, rfl⟩
  · obtain ⟨k, rfl, rfl⟩ := h.eq_int
    exact .inr ⟨k, rfl, rfl⟩

theorem ExactResult.bind {r : Except Failure Number} {q : Except Failure Int}
    {g : Number → Except Failure Number} {g' : Int → Except Failure Int}
    (h : ExactResult r q) (hg : ∀ k : Int32, ExactResult (g (.int k)) (g' k.toInt)) :
    ExactResult (r.bind g) (q.bind g') := by
  rcases q with f | z
  · rw [h.eq_error]
    rfl
  · obtain ⟨k, rfl, rfl⟩ := h.eq_int
    exact hg k

namespace IntTree

/-- The simulation: on a store that holds integers by name, the calculator evaluates an integer
tree to the exact result and leaves a store that holds the integers the exact evaluation leaves.
The induction is on the tree; a failure passes up unchanged with the store it reached. -/
theorem eval_toExpr_exact :
    ∀ (e : IntTree) {s : Store} {ρ : IntEnv}, s.HoldsInts ρ →
      ExactResult (e.toExpr.eval s).1 (e.evalExact ρ).1 ∧
        (e.toExpr.eval s).2.HoldsInts (e.evalExact ρ).2
  | .lit n, _, _, h => ⟨rfl, h⟩
  | .var name, s, ρ, h => by
    refine ⟨?_, h⟩
    simp only [toExpr, Expr.eval, Store.fetch, evalExact]
    have hn := h name
    generalize s.get? name = o at hn ⊢
    generalize ρ name = o' at hn ⊢
    cases hn with
    | none => rfl
    | some hv => exact hv
  | .unary op e, s, ρ, h => by
    obtain ⟨hr, hs⟩ := eval_toExpr_exact e h
    simp only [toExpr]
    rw [Expr.eval_unary, evalExact_unary]
    exact ⟨hr.bind (IntUnaryOp.apply_exact op), hs⟩
  | .binary op l r, s, ρ, h => by
    obtain ⟨hr, hs⟩ := eval_toExpr_exact l h
    simp only [toExpr]
    rcases hr.fst_cases with ⟨f, hle, hl⟩ | ⟨k, hle, hl⟩
    · rw [Expr.eval_binary_of_error _ _ hle, evalExact_binary_of_error _ _ hl]
      exact ⟨rfl, hs⟩
    · obtain ⟨hr', hs'⟩ := eval_toExpr_exact r hs
      rw [Expr.eval_binary_of_ok _ _ hle, evalExact_binary_of_ok _ _ hl]
      exact ⟨hr'.bind (IntBinaryOp.apply_exact op k), hs'⟩
  | .assign name e, s, ρ, h => by
    obtain ⟨hr, hs⟩ := eval_toExpr_exact e h
    simp only [toExpr]
    rcases hr.fst_cases with ⟨f, hee, he⟩ | ⟨k, hee, he⟩
    · rw [Expr.eval_assign_of_error _ hee, evalExact_assign_of_error _ he]
      exact ⟨rfl, hs⟩
    · rw [Expr.eval_assign_of_ok _ hee, evalExact_assign_of_ok _ he]
      exact ⟨rfl, hs.set name rfl⟩

end IntTree

/-- Integer evaluation is exact or fails, never wraps. On a store whose numbers are all
integers, a tree of integer literals, variables, assignments, negation, `not`, `factorial`,
`+`, `-`, `*`, `/`, `and`, `or` and `xor` evaluates as over the mathematical integers, left to
right up to the first failure: to the same failure, or to a 32-bit integer whose value is the
exact result. The store after it again holds only integers, those the exact evaluation leaves. -/
theorem eval_integer_tree_exact (e : IntTree) (s : Store) (hs : s.AllIntegers) :
    ExactResult (e.toExpr.eval s).1 (e.evalExact s.intView).1 ∧
      (e.toExpr.eval s).2.AllIntegers ∧
      (e.toExpr.eval s).2.intView = (e.evalExact s.intView).2 :=
  have h := e.eval_toExpr_exact (Store.HoldsInts.of_allIntegers hs)
  ⟨h.1, h.2.allIntegers, h.2.intView_eq⟩

/-- `(x <- 2147483647) + 1` on a store where `y` is `3`: the exact sum leaves the 32-bit range,
so the calculator reports `overflow` rather than a wrapped sum, and keeps the assignment. -/
theorem eval_integer_tree_exact_overflow :
    Store.AllIntegers ⟨[("y", .int 3)]⟩ ∧
      ExactResult ((IntTree.binary .add (.assign "x" (.lit 2147483647)) (.lit 1)).toExpr.eval
          ⟨[("y", .int 3)]⟩).1
        ((IntTree.binary .add (.assign "x" (.lit 2147483647)) (.lit 1)).evalExact
          (Store.intView ⟨[("y", .int 3)]⟩)).1 ∧
      ((IntTree.binary .add (.assign "x" (.lit 2147483647)) (.lit 1)).toExpr.eval
          ⟨[("y", .int 3)]⟩).2.AllIntegers ∧
      ((IntTree.binary .add (.assign "x" (.lit 2147483647)) (.lit 1)).toExpr.eval
          ⟨[("y", .int 3)]⟩).2.intView =
        ((IntTree.binary .add (.assign "x" (.lit 2147483647)) (.lit 1)).evalExact
          (Store.intView ⟨[("y", .int 3)]⟩)).2 := by
  have hs : Store.AllIntegers ⟨[("y", .int 3)]⟩ := by
    intro n v h
    simp only [Store.get?, List.lookup_cons, List.lookup_nil] at h
    split at h <;> cases h
    rfl
  exact ⟨hs, eval_integer_tree_exact _ _ hs⟩

end Calculator
