import Calculator.Proofs.Kinds

/-! # What lies beneath a failure

A failure carries its own message and the messages of the failures beneath it, outermost first
(`Failure.chain`). Only a variable read as the kind it does not hold has one beneath it, the
failure that names the variable, the kind it holds and the kind asked for.

* Reading a name (`Store.fetch_eq_ok_iff`, `Store.fetch_eq_error_cases`,
  `Store.fetch_unset_iff`): a read gives the number the name holds when that number has the kind
  asked for, or any kind is asked for; it fails with `variable does not exist`, and nothing
  beneath, exactly when the name is unset; otherwise it fails with
  `variable is not of expected type`, over the failure that says what the name holds.
* Where the failure of an evaluation comes from (`Expr.eval_error_origin`): an unset name, or an
  operation. No operation puts a failure beneath its own, and an evaluation reads its names as
  any number, so every failure of an evaluation stands alone.
-/

namespace Calculator

set_option autoImplicit false

/-! ## Failures that stand alone -/

theorem checked_error_causes {z : Int} {f : Failure} (h : checked z = .error f) : f.causes = [] := by
  rw [checked_error h]
  rfl

theorem promoted_error_causes {gi : Int → Int → Int} {gf : Float → Float → Float} {x y : Number}
    {f : Failure} (h : promoted gi gf x y = .error f) : f.causes = [] := by
  rw [promoted_error h]
  rfl

theorem UnaryOp.apply_error_causes {op : UnaryOp} {x : Number} {f : Failure}
    (h : op.apply x = .error f) : f.causes = [] := by
  cases op
  case negate =>
    cases x with
    | int a => exact checked_error_causes h
    | float x => cases h
  case not =>
    cases x with
    | int a => cases h
    | float x => cases h; rfl
  case factorial =>
    cases x with
    | int n =>
      simp only [apply, Number.factorial] at h
      split at h
      · cases h; rfl
      · split at h <;> cases h; rfl
    | float x => cases h; rfl
  case log | ln | sqrt => rw [nonNegative_error h]; rfl
  case sin | cos | tan => cases h
  case ctg => rw [cotangent_error h]; rfl

theorem BinaryOp.apply_error_causes {op : BinaryOp} {x y : Number} {f : Failure}
    (h : op.apply x y = .error f) : f.causes = [] := by
  cases op
  case and | or | xor =>
    cases x <;> cases y <;> simp only [apply, bitwise] at h <;> cases h <;> rfl
  case power =>
    cases x <;> cases y <;> simp only [apply] at h <;> cases h
  case divide =>
    simp only [apply] at h
    split at h
    · cases h; rfl
    · exact promoted_error_causes h
  all_goals
    simp only [apply] at h
    exact promoted_error_causes h

/-! ## Reading a name -/

namespace Store

variable (s : Store) (name : String)

theorem fetch_eq_ok_iff (expected : Option Kind) (v : Number) :
    s.fetch name expected = .ok v ↔ s.get? name = some v ∧ ∀ k ∈ expected, v.kind = k := by
  unfold fetch
  cases hget : s.get? name with
  | none => simp
  | some w =>
    cases expected with
    | none => simp
    | some k =>
      by_cases hk : w.kind = k
      · simp only [hk, if_true, Except.ok.injEq, Option.some.injEq, Option.mem_def]
        constructor
        · rintro rfl
          exact ⟨rfl, fun k' hk' => by cases hk'; exact hk⟩
        · rintro ⟨rfl, -⟩
          rfl
      · simp only [hk, if_false, reduceCtorEq, false_iff, not_and, Option.some.injEq,
          Option.mem_def]
        rintro rfl hall
        exact hk (hall k rfl)

theorem fetch_eq_error_cases {expected : Option Kind} {f : Failure}
    (h : s.fetch name expected = .error f) :
    (s.get? name = none ∧ f = .unboundVariable) ∨
      ∃ v k, s.get? name = some v ∧ expected = some k ∧ v.kind ≠ k ∧
        f = .kindMismatch name v.kind k := by
  unfold fetch at h
  cases hget : s.get? name with
  | none =>
    rw [hget] at h
    cases h
    exact .inl ⟨rfl, rfl⟩
  | some w =>
    rw [hget] at h
    cases expected with
    | none => cases h
    | some k =>
      by_cases hk : w.kind = k
      · simp [hk] at h
      · simp only [hk, if_false, Except.error.injEq] at h
        exact .inr ⟨w, k, rfl, rfl, hk, h.symm⟩

theorem fetch_of_get?_eq_none {expected : Option Kind} (h : s.get? name = none) :
    s.fetch name expected = .error .unboundVariable := by
  simp [fetch, h]

theorem fetch_unset_iff (expected : Option Kind) :
    (∃ f, s.fetch name expected = .error f ∧ f.reason = "variable does not exist" ∧
      f.causes = []) ↔ s.get? name = none := by
  constructor
  · -- a mismatch has another message, so only an unset name fails this way
    rintro ⟨f, hf, hreason, -⟩
    rcases fetch_eq_error_cases s name hf with ⟨hnone, -⟩ | ⟨v, k, -, -, -, rfl⟩
    · exact hnone
    · have hmismatch : (Failure.kindMismatch name v.kind k).reason =
          "variable is not of expected type" := rfl
      rw [hmismatch] at hreason
      exact absurd hreason (by decide)
  · intro hnone
    exact ⟨.unboundVariable, fetch_of_get?_eq_none s name hnone, rfl, rfl⟩

theorem fetch_of_kind_ne {v : Number} {k : Kind} (hv : s.get? name = some v) (hk : v.kind ≠ k) :
    s.fetch name (some k) = .error (.kindMismatch name v.kind k) := by
  simp [fetch, hv, hk]

end Store

/-! ## Failures of an evaluation -/

namespace Expr

/-- Every failure of an evaluation is the failure of an unset name or of an operation. The
induction is on the tree: a node fails with the failure of a subtree or of its own operation,
and an assignment only with its value's. -/
theorem eval_error_origin : ∀ (e : Expr) (s : Store) (f : Failure), (e.eval s).1 = .error f →
    f = .unboundVariable ∨ (∃ (op : UnaryOp) (x : Number), op.apply x = .error f) ∨
      ∃ (op : BinaryOp) (x y : Number), op.apply x y = .error f
  | .lit _, _, _, h => by cases h
  | .var name, s, f, h => by
    have hfetch : s.fetch name none = .error f := h
    rcases Store.fetch_eq_error_cases s name hfetch with ⟨-, rfl⟩ | ⟨v, k, -, hk, -⟩
    · exact .inl rfl
    · cases hk
  | .unary op e, s, f, h => by
    rw [eval_unary] at h
    rcases he : (e.eval s).1 with f' | x <;> rw [he] at h
    · cases h
      exact eval_error_origin e s f he
    · exact .inr (.inl ⟨op, x, h⟩)
  | .binary op l r, s, f, h => by
    rcases hl : l.eval s with ⟨f' | x, t⟩
    · rw [eval_binary_of_error op r hl] at h
      cases h
      exact eval_error_origin l s f (by rw [hl])
    · rw [eval_binary_of_ok op r hl] at h
      rcases hr : (r.eval t).1 with f' | y <;> rw [hr] at h
      · cases h
        exact eval_error_origin r t f hr
      · exact .inr (.inr ⟨op, x, y, h⟩)
  | .assign name e, s, f, h => by
    rcases he : e.eval s with ⟨f' | x, t⟩
    · rw [eval_assign_of_error name he] at h
      cases h
      exact eval_error_origin e s f (by rw [he])
    · rw [eval_assign_of_ok name he] at h
      cases h

theorem eval_error_causes {e : Expr} {s : Store} {f : Failure} (h : (e.eval s).1 = .error f) :
    f.causes = [] := by
  rcases eval_error_origin e s f h with rfl | ⟨op, x, hop⟩ | ⟨op, x, y, hop⟩
  · rfl
  · exact UnaryOp.apply_error_causes hop
  · exact BinaryOp.apply_error_causes hop

end Expr

/-- Reading a name as any number (`none`), as an integer or as a float (`some k`) gives the
number the name holds exactly when it has the kind asked for. It fails with
`variable does not exist` and no failure beneath exactly when the name is unset, and otherwise
with `variable is not of expected type`, whose chain holds two failures, the innermost saying
which kind the variable holds and which was expected. An evaluation reads its names as any
number and no operation fails over another failure, so every failure of every evaluation, from
every store, has a chain of one. -/
theorem fetch_failures_and_their_causes :
    (∀ (s : Store) (name : String) (expected : Option Kind),
      (∀ v, s.fetch name expected = .ok v ↔ s.get? name = some v ∧ ∀ k ∈ expected, v.kind = k) ∧
      ((∃ f, s.fetch name expected = .error f ∧ f.reason = "variable does not exist" ∧
          f.causes = []) ↔ s.get? name = none) ∧
      ∀ v k, s.get? name = some v → expected = some k → v.kind ≠ k →
        ∃ f, s.fetch name expected = .error f ∧ f.reason = "variable is not of expected type" ∧
          f.chain.length = 2 ∧
          f.rootCause = "`" ++ name ++ "` holds a " ++ v.kind.name ++ ", expected " ++ k.name) ∧
    ∀ (e : Expr) (s : Store) (f : Failure), (e.eval s).1 = .error f → f.chain.length = 1 := by
  refine ⟨fun s name expected => ⟨Store.fetch_eq_ok_iff s name expected,
    Store.fetch_unset_iff s name expected, ?_⟩, ?_⟩
  · rintro v k hv rfl hk
    exact ⟨_, Store.fetch_of_kind_ne s name hv hk, rfl, rfl, rfl⟩
  · intro e s f h
    rw [Failure.chain_length, Expr.eval_error_causes h]
    rfl

-- a float read as an integer: the innermost failure names the variable and both kinds
example : (Failure.kindMismatch "half" .float .integer).rootCause =
    "`half` holds a float, expected integer" := by decide

end Calculator
