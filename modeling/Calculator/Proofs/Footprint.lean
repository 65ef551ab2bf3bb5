import Calculator.Proofs.Writes

/-! # What an evaluation reads and writes

An evaluation reads the store only under the names its tree holds in a variable or an
assignment (`Expr.names`), and writes only under the names it assigns. So two stores that agree
on a tree's names give the same result, success or failure, and agree on those names afterwards
(`eval_agreeOn`), and every other name keeps its number (`get?_eval_of_not_mem`).

The first section restates `Expr.eval` one node at a time, as the result and the store of the
subtrees it runs: the later proofs about evaluation go through these equations and never open
the definition.
-/

namespace Calculator

set_option autoImplicit false

/-! ## Evaluation node by node -/

namespace Expr

variable {s s₁ s₂ : Store} {x : Number} {f : Failure}

theorem eval_unary (op : UnaryOp) (e : Expr) (s : Store) :
    (unary op e).eval s = ((e.eval s).1.bind op.apply, (e.eval s).2) := by
  simp only [eval]
  rcases e.eval s with ⟨_ | _, _⟩ <;> rfl

theorem eval_binary_of_error {l : Expr} (op : BinaryOp) (r : Expr) (h : l.eval s = (.error f, s₁)) :
    (binary op l r).eval s = (.error f, s₁) := by
  simp only [eval, h]

theorem eval_binary_of_ok {l : Expr} (op : BinaryOp) (r : Expr) (h : l.eval s = (.ok x, s₁)) :
    (binary op l r).eval s = ((r.eval s₁).1.bind (op.apply x), (r.eval s₁).2) := by
  simp only [eval, h]
  rcases r.eval s₁ with ⟨_ | _, _⟩ <;> rfl

theorem eval_assign_of_error {e : Expr} (name : String) (h : e.eval s = (.error f, s₁)) :
    (assign name e).eval s = (.error f, s₁) := by
  simp only [eval, h]

theorem eval_assign_of_ok {e : Expr} (name : String) (h : e.eval s = (.ok x, s₁)) :
    (assign name e).eval s = (.ok x, s₁.set name x) := by
  simp only [eval, h]

end Expr

/-! ## Stores that agree on names -/

namespace Store

theorem get?_set_apply (s : Store) (name : String) (v : Number) (n : String) :
    (s.set name v).get? n = if n = name then some v else s.get? n :=
  congrFun (get?_set s name v) n

/-- Two stores agree on a list of names when each name is unset in both or holds the same
number in both. -/
def AgreeOn (names : List String) (s₁ s₂ : Store) : Prop :=
  ∀ n ∈ names, s₁.get? n = s₂.get? n

namespace AgreeOn

variable {names : List String} {s₁ s₂ : Store}

theorem set (h : AgreeOn names s₁ s₂) (name : String) (v : Number) :
    AgreeOn names (s₁.set name v) (s₂.set name v) := by
  intro n hn
  rw [get?_set_apply, get?_set_apply, h n hn]

theorem fetch_eq {name : String} (h : AgreeOn names s₁ s₂) (hname : name ∈ names)
    (expected : Option Kind) : s₁.fetch name expected = s₂.fetch name expected := by
  simp only [fetch, h name hname]

end AgreeOn

end Store

/-! ## Reads and writes of an evaluation -/

theorem Except.fst_eq_cases {ε α σ : Type} {p q : Except ε α × σ} (h : p.1 = q.1) :
    (∃ f, p = (.error f, p.2) ∧ q = (.error f, q.2)) ∨ ∃ x, p = (.ok x, p.2) ∧ q = (.ok x, q.2) := by
  rcases p with ⟨f | x, t⟩ <;> rcases q with ⟨g | y, u⟩ <;> cases h
  · exact .inl ⟨f, rfl, rfl⟩
  · exact .inr ⟨x, rfl, rfl⟩

namespace Expr

/-- Two stores that agree on a list of names holding all of a tree's names give the same result
and still agree on that list afterwards. The induction is on the tree; the list stays the same
throughout, so the right operand of an operation starts from stores that agree on it again. -/
theorem eval_agreeOn {names : List String} :
    ∀ (e : Expr) {s₁ s₂ : Store}, e.names ⊆ names → Store.AgreeOn names s₁ s₂ →
      (e.eval s₁).1 = (e.eval s₂).1 ∧ Store.AgreeOn names (e.eval s₁).2 (e.eval s₂).2
  | .lit _, _, _, _, h => ⟨rfl, h⟩
  | .var name, _, _, hsub, h => ⟨h.fetch_eq (hsub (List.mem_singleton_self name)) none, h⟩
  | .unary op e, s₁, s₂, hsub, h => by
    obtain ⟨hr, ha⟩ := eval_agreeOn e hsub h
    rw [eval_unary, eval_unary, hr]
    exact ⟨rfl, ha⟩
  | .binary op l r, s₁, s₂, hsub, h => by
    have hl : l.names ⊆ names := fun n hn => hsub (List.mem_append_left _ hn)
    have hr : r.names ⊆ names := fun n hn => hsub (List.mem_append_right _ hn)
    obtain ⟨hres, ha⟩ := eval_agreeOn l hl h
    rcases Except.fst_eq_cases hres with ⟨f, hl₁, hl₂⟩ | ⟨x, hl₁, hl₂⟩
    · rw [eval_binary_of_error op r hl₁, eval_binary_of_error op r hl₂]
      exact ⟨rfl, ha⟩
    · obtain ⟨hres', ha'⟩ := eval_agreeOn r hr ha
      rw [eval_binary_of_ok op r hl₁, eval_binary_of_ok op r hl₂, hres']
      exact ⟨rfl, ha'⟩
  | .assign name e, s₁, s₂, hsub, h => by
    obtain ⟨hres, ha⟩ := eval_agreeOn e (fun n hn => hsub (List.mem_cons_of_mem name hn)) h
    rcases Except.fst_eq_cases hres with ⟨f, he₁, he₂⟩ | ⟨x, he₁, he₂⟩
    · rw [eval_assign_of_error name he₁, eval_assign_of_error name he₂]
      exact ⟨rfl, ha⟩
    · rw [eval_assign_of_ok name he₁, eval_assign_of_ok name he₂]
      exact ⟨rfl, ha.set name x⟩

theorem get?_eval_of_not_mem {n : String} :
    ∀ (e : Expr) (s : Store), n ∉ e.names → (e.eval s).2.get? n = s.get? n
  | .lit _, _, _ => rfl
  | .var _, _, _ => rfl
  | .unary op e, s, hn => by
    rw [eval_unary]
    exact get?_eval_of_not_mem e s hn
  | .binary op l r, s, hn => by
    simp only [names, List.mem_append, not_or] at hn
    have hl := get?_eval_of_not_mem l s hn.1
    rcases hl₁ : l.eval s with ⟨f | x, t⟩ <;> rw [hl₁] at hl
    · rw [eval_binary_of_error op r hl₁]
      exact hl
    · rw [eval_binary_of_ok op r hl₁]
      exact (get?_eval_of_not_mem r t hn.2).trans hl
  | .assign name e, s, hn => by
    simp only [names, List.mem_cons, not_or] at hn
    have he := get?_eval_of_not_mem e s hn.2
    rcases he₁ : e.eval s with ⟨f | x, t⟩ <;> rw [he₁] at he
    · rw [eval_assign_of_error name he₁]
      exact he
    · rw [eval_assign_of_ok name he₁, Store.get?_set_apply, if_neg hn.1]
      exact he

end Expr

/-- Evaluation reads only the names its tree holds. Two stores that hold the same number, or
none, under each name of a tree give the same result, the same number or the same failure; the
stores after agree on the tree's names, and every other name keeps in each store the number it
had before. -/
theorem eval_reads_only_its_names (e : Expr) (s₁ s₂ : Store)
    (h : ∀ n ∈ e.names, s₁.get? n = s₂.get? n) :
    (e.eval s₁).1 = (e.eval s₂).1 ∧
      (∀ n ∈ e.names, (e.eval s₁).2.get? n = (e.eval s₂).2.get? n) ∧
      ∀ n, n ∉ e.names → (e.eval s₁).2.get? n = s₁.get? n ∧ (e.eval s₂).2.get? n = s₂.get? n :=
  have hagree := e.eval_agreeOn (List.Subset.refl _) h
  ⟨hagree.1, hagree.2, fun _ hn => ⟨e.get?_eval_of_not_mem s₁ hn, e.get?_eval_of_not_mem s₂ hn⟩⟩

/-- `x + (y <- 1)` on two stores that agree on `x` and on `y` but not on `z`. -/
theorem eval_reads_only_its_names_sum_assign :
    (∀ n ∈ (Expr.binary .add (.var "x") (.assign "y" (.lit (.int 1)))).names,
        Store.get? ⟨[("x", .int 2), ("z", .int 7)]⟩ n =
          Store.get? ⟨[("z", .float 0.5), ("x", .int 2)]⟩ n) ∧
      ((Expr.binary .add (.var "x") (.assign "y" (.lit (.int 1)))).eval
          ⟨[("x", .int 2), ("z", .int 7)]⟩).1 =
        ((Expr.binary .add (.var "x") (.assign "y" (.lit (.int 1)))).eval
          ⟨[("z", .float 0.5), ("x", .int 2)]⟩).1 ∧
      (∀ n ∈ (Expr.binary .add (.var "x") (.assign "y" (.lit (.int 1)))).names,
        ((Expr.binary .add (.var "x") (.assign "y" (.lit (.int 1)))).eval
          ⟨[("x", .int 2), ("z", .int 7)]⟩).2.get? n =
        ((Expr.binary .add (.var "x") (.assign "y" (.lit (.int 1)))).eval
          ⟨[("z", .float 0.5), ("x", .int 2)]⟩).2.get? n) ∧
      ∀ n, n ∉ (Expr.binary .add (.var "x") (.assign "y" (.lit (.int 1)))).names →
        ((Expr.binary .add (.var "x") (.assign "y" (.lit (.int 1)))).eval
          ⟨[("x", .int 2), ("z", .int 7)]⟩).2.get? n = Store.get? ⟨[("x", .int 2), ("z", .int 7)]⟩ n ∧
        ((Expr.binary .add (.var "x") (.assign "y" (.lit (.int 1)))).eval
          ⟨[("z", .float 0.5), ("x", .int 2)]⟩).2.get? n =
            Store.get? ⟨[("z", .float 0.5), ("x", .int 2)]⟩ n := by
  have h : ∀ n ∈ (Expr.binary .add (.var "x") (.assign "y" (.lit (.int 1)))).names,
      Store.get? ⟨[("x", .int 2), ("z", .int 7)]⟩ n =
        Store.get? ⟨[("z", .float 0.5), ("x", .int 2)]⟩ n := by
    intro n hn
    simp only [Expr.names, List.cons_append, List.nil_append, List.mem_cons, List.not_mem_nil,
      or_false] at hn
    rcases hn with rfl | rfl <;> rfl
  exact ⟨h, eval_reads_only_its_names _ _ _ h⟩

end Calculator
