import Calculator.Proofs.Footprint

/-! # The kind of a result is known before evaluating

A tree has a static kind under a context that gives the kind of each set name: a number has
its own kind, a variable the kind the context gives it, and an operation the kind its operands'
kinds decide (`UnaryOp.resultKind`, `BinaryOp.resultKind`), or none when it needs integers and
gets a float. An assignment passes its value's kind on and gives it to its name for what follows,
so the context is threaded left to right as the store is (`Expr.staticKind`).

Type soundness, for a store whose kinds are the context: an evaluation that succeeds has the
static kind and leaves a store whose kinds are the context the static kind reaches; and a tree
with a static kind fails, if it does, only for a value (overflow, division by zero, a negative
input, a factorial beyond 32 bits, an undefined cotangent), never for a kind or an unset name
(`Failure.isKindError`).

The operations are handled once each, in `UnaryOp.resultKind_of_apply` and
`BinaryOp.resultKind_of_apply` and their failure twins; the induction on the tree then only
threads the context through `Store.kinds_set`.
-/

namespace Calculator

set_option autoImplicit false

/-! ## Kinds of results and failures -/

/-- Kinds by name, as a store holds them or as a tree's assignments will leave them. -/
abbrev KindMap := String → Option Kind

/-- The kind of an operation's result on an operand of kind `k`: `-` keeps it, `not` and
`factorial` need an integer and give one, and the functions give a float. -/
def UnaryOp.resultKind : UnaryOp → Kind → Option Kind
  | .negate, k => some k
  | .not, .integer => some .integer
  | .not, .float => none
  | .factorial, .integer => some .integer
  | .factorial, .float => none
  | .log, _ | .ln, _ | .sqrt, _ | .sin, _ | .cos, _ | .tan, _ | .ctg, _ => some .float

/-- The kind of an operation's result on operands of kinds `k₁` and `k₂`: the bitwise operations
need two integers and give one; the others give an integer on two integers and a float
otherwise. -/
def BinaryOp.resultKind : BinaryOp → Kind → Kind → Option Kind
  | .and, .integer, .integer | .or, .integer, .integer | .xor, .integer, .integer =>
    some .integer
  | .and, _, _ | .or, _, _ | .xor, _, _ => none
  | _, .integer, .integer => some .integer
  | _, _, _ => some .float

/-- Whether a failure comes from kinds or names rather than values: an unset name, a float
given to an operation on integers, or a name read as the kind it does not hold. Every message
of such a failure is `variable does not exist`, `variable is not of expected type`, or ends in
`is not an integer`. -/
def Failure.isKindError : Failure → Bool
  | .unboundVariable | .bitwiseOfFloat _ | .complementOfFloat | .factorialOfFloat
  | .kindMismatch _ _ _ => true
  | .overflow | .divisionByZero | .negativeInput _ | .factorialOverflow
  | .cotangentUndefined => false

theorem Failure.isKindError_eq_false_iff (f : Failure) :
    f.isKindError = false ↔ f = .overflow ∨ f = .divisionByZero ∨ (∃ op, f = .negativeInput op) ∨
      f = .factorialOverflow ∨ f = .cotangentUndefined := by
  cases f <;> simp [isKindError]

/-! ## Each operation -/

theorem checked_ok_kind {z : Int} {y : Number} (h : checked z = .ok y) : y.kind = .integer := by
  unfold checked at h
  split at h <;> cases h
  rfl

theorem checked_error {z : Int} {f : Failure} (h : checked z = .error f) : f = .overflow := by
  unfold checked at h
  split at h <;> cases h
  rfl

theorem nonNegative_ok_kind {op : UnaryOp} {g : Float → Float} {x y : Number}
    (h : nonNegative op g x = .ok y) : y.kind = .float := by
  unfold nonNegative at h
  split at h <;> cases h
  rfl

theorem nonNegative_error {op : UnaryOp} {g : Float → Float} {x : Number} {f : Failure}
    (h : nonNegative op g x = .error f) : f = .negativeInput op := by
  unfold nonNegative at h
  split at h <;> cases h
  rfl

theorem cotangent_ok_kind {x y : Number} (h : x.cotangent = .ok y) : y.kind = .float := by
  simp only [Number.cotangent] at h
  split at h <;> cases h
  rfl

theorem cotangent_error {x : Number} {f : Failure} (h : x.cotangent = .error f) :
    f = .cotangentUndefined := by
  simp only [Number.cotangent] at h
  split at h <;> cases h
  rfl

theorem factorial_int_ok_kind {n : Int32} {y : Number} (h : (Number.int n).factorial = .ok y) :
    y.kind = .integer := by
  simp only [Number.factorial] at h
  split at h
  · cases h
  · split at h <;> cases h
    rfl

theorem factorial_int_error {n : Int32} {f : Failure} (h : (Number.int n).factorial = .error f) :
    f.isKindError = false := by
  simp only [Number.factorial] at h
  split at h
  · cases h
    rfl
  · split at h <;> cases h
    rfl

theorem UnaryOp.resultKind_of_apply {op : UnaryOp} {x y : Number} (h : op.apply x = .ok y) :
    op.resultKind x.kind = some y.kind := by
  cases op
  case negate =>
    cases x with
    | int a => rw [checked_ok_kind h]; rfl
    | float x => cases h; rfl
  case not =>
    cases x with
    | int a => cases h; rfl
    | float x => cases h
  case factorial =>
    cases x with
    | int n => rw [factorial_int_ok_kind h]; rfl
    | float x => cases h
  case log | ln | sqrt => rw [nonNegative_ok_kind h]; rfl
  case sin | cos | tan => cases h; rfl
  case ctg => rw [cotangent_ok_kind h]; rfl

theorem UnaryOp.apply_error {op : UnaryOp} {x : Number} {f : Failure}
    (hk : (op.resultKind x.kind).isSome) (h : op.apply x = .error f) : f.isKindError = false := by
  cases op
  case negate =>
    cases x with
    | int a => rw [checked_error h]; rfl
    | float x => cases h
  -- `not` and `factorial` fail on a float only as a kind error, which `hk` excludes
  case not =>
    cases x with
    | int a => cases h
    | float x => cases hk
  case factorial =>
    cases x with
    | int n => exact factorial_int_error h
    | float x => cases hk
  case log | ln | sqrt => rw [nonNegative_error h]; rfl
  case sin | cos | tan => cases h
  case ctg => rw [cotangent_error h]; rfl

theorem promoted_ok_kind {gi : Int → Int → Int} {gf : Float → Float → Float} {x y z : Number}
    (h : promoted gi gf x y = .ok z) :
    z.kind = if x.kind = .integer ∧ y.kind = .integer then .integer else .float := by
  cases x <;> cases y <;> simp only [promoted] at h
  · simp [checked_ok_kind h]
  all_goals cases h; rfl

theorem promoted_error {gi : Int → Int → Int} {gf : Float → Float → Float} {x y : Number}
    {f : Failure} (h : promoted gi gf x y = .error f) : f = .overflow := by
  cases x <;> cases y <;> simp only [promoted] at h
  · exact checked_error h
  all_goals cases h

theorem bitwise_ok_kind {b : BinaryOp} {g : Int32 → Int32 → Int32} {x y z : Number}
    (h : bitwise b g x y = .ok z) :
    x.kind = .integer ∧ y.kind = .integer ∧ z.kind = .integer := by
  cases x <;> cases y <;> simp only [bitwise] at h <;> cases h
  exact ⟨rfl, rfl, rfl⟩

theorem bitwise_error {b : BinaryOp} {g : Int32 → Int32 → Int32} {x y : Number} {f : Failure}
    (h : bitwise b g x y = .error f) : x.kind = .float ∨ y.kind = .float := by
  cases x <;> cases y <;> simp only [bitwise, reduceCtorEq] at h
  all_goals simp

theorem BinaryOp.resultKind_of_apply {op : BinaryOp} {x y z : Number}
    (h : op.apply x y = .ok z) : op.resultKind x.kind y.kind = some z.kind := by
  cases op
  case and | or | xor =>
    obtain ⟨hx, hy, hz⟩ := bitwise_ok_kind h
    rw [hx, hy, hz]
    rfl
  case power =>
    cases x <;> cases y <;> simp only [apply] at h <;> cases h <;> rfl
  case divide =>
    simp only [apply] at h
    split at h
    · cases h
    · rw [promoted_ok_kind h]
      cases x.kind <;> cases y.kind <;> rfl
  all_goals
    simp only [apply] at h
    rw [promoted_ok_kind h]
    cases x.kind <;> cases y.kind <;> rfl

theorem BinaryOp.apply_error {op : BinaryOp} {x y : Number} {f : Failure}
    (hk : (op.resultKind x.kind y.kind).isSome) (h : op.apply x y = .error f) :
    f.isKindError = false := by
  cases op
  case and | or | xor =>
    -- a bitwise operation fails only on a float, a kind it does not take
    simp only [apply] at h
    rcases bitwise_error h with hx | hy
    · rw [hx] at hk
      cases y.kind <;> simp [resultKind] at hk
    · rw [hy] at hk
      cases x.kind <;> simp [resultKind] at hk
  case power =>
    cases x <;> cases y <;> simp only [apply] at h <;> cases h
  case divide =>
    simp only [apply] at h
    split at h
    · cases h
      rfl
    · rw [promoted_error h]
      rfl
  all_goals
    simp only [apply] at h
    rw [promoted_error h]
    rfl

/-! ## Static kinds of trees -/

def Store.kinds (s : Store) : KindMap :=
  fun n => (s.get? n).map Number.kind

theorem Store.kinds_set (s : Store) (name : String) (v : Number) :
    (s.set name v).kinds = fun n => if n = name then some v.kind else s.kinds n := by
  funext n
  simp only [kinds, get?_set_apply]
  split <;> rfl

/-- The static kind of a tree under a context of kinds by name, with the context after it:
operands in order, each assignment giving its value's kind to its name for what follows.
`none` when a name has no kind or an operation cannot take its operands' kinds. -/
def Expr.staticKind : Expr → KindMap → Option (Kind × KindMap)
  | .lit v, G => some (v.kind, G)
  | .var name, G => (G name).map fun k => (k, G)
  | .unary op e, G =>
    (e.staticKind G).bind fun p => (op.resultKind p.1).map fun k => (k, p.2)
  | .binary op l r, G =>
    (l.staticKind G).bind fun p₁ => (r.staticKind p₁.2).bind fun p₂ =>
      (op.resultKind p₁.1 p₂.1).map fun k => (k, p₂.2)
  | .assign name e, G =>
    (e.staticKind G).map fun p => (p.1, fun n => if n = name then some p.1 else p.2 n)

namespace Expr

variable {G : KindMap}

theorem staticKind_unary_of (op : UnaryOp) {e : Expr} {k k' : Kind} {G' : KindMap}
    (he : e.staticKind G = some (k, G')) (hk : op.resultKind k = some k') :
    (unary op e).staticKind G = some (k', G') := by
  simp [staticKind, he, hk]

theorem staticKind_binary_of (op : BinaryOp) {l r : Expr} {k₁ k₂ k : Kind} {G₁ G₂ : KindMap}
    (hl : l.staticKind G = some (k₁, G₁)) (hr : r.staticKind G₁ = some (k₂, G₂))
    (hk : op.resultKind k₁ k₂ = some k) : (binary op l r).staticKind G = some (k, G₂) := by
  simp [staticKind, hl, hr, hk]

theorem staticKind_unary_isSome {op : UnaryOp} {e : Expr}
    (h : ((unary op e).staticKind G).isSome) :
    ∃ k G', e.staticKind G = some (k, G') ∧ (op.resultKind k).isSome := by
  simp only [staticKind, Option.isSome_bind, Option.isSome_map] at h
  rcases he : e.staticKind G with _ | ⟨k, G'⟩
  · simp [he] at h
  · simp only [he, Option.any_some] at h
    exact ⟨k, G', rfl, h⟩

theorem staticKind_binary_isSome {op : BinaryOp} {l r : Expr}
    (h : ((binary op l r).staticKind G).isSome) :
    ∃ k₁ G₁ k₂ G₂, l.staticKind G = some (k₁, G₁) ∧ r.staticKind G₁ = some (k₂, G₂) ∧
      (op.resultKind k₁ k₂).isSome := by
  simp only [staticKind, Option.isSome_bind, Option.isSome_map] at h
  rcases hl : l.staticKind G with _ | ⟨k₁, G₁⟩
  · simp [hl] at h
  · simp only [hl, Option.any_some] at h
    rcases hr : r.staticKind G₁ with _ | ⟨k₂, G₂⟩
    · simp [hr] at h
    · simp only [hr, Option.any_some] at h
      exact ⟨k₁, G₁, k₂, G₂, rfl, hr, h⟩

theorem staticKind_assign_isSome {name : String} {e : Expr}
    (h : ((assign name e).staticKind G).isSome) : (e.staticKind G).isSome := by
  simpa [staticKind] using h

/-- Type soundness, one induction on the tree for both halves: a success has the static kind
and leaves the kinds the static kind reaches, and a tree with a static kind fails only for a
value. A binary node needs the first half for its left operand to know the context its right
operand starts from. -/
theorem eval_staticKind :
    ∀ (e : Expr) (s : Store),
      (∀ v s', e.eval s = (.ok v, s') → e.staticKind s.kinds = some (v.kind, s'.kinds)) ∧
      ((e.staticKind s.kinds).isSome → ∀ f, (e.eval s).1 = .error f → f.isKindError = false)
  | .lit v, s => by
    refine ⟨fun v' s' h => ?_, fun _ f h => by cases h⟩
    cases h
    rfl
  | .var name, s => by
    constructor
    · intro v s' h
      simp only [eval, Store.fetch] at h
      cases hget : s.get? name with
      | none => simp [hget] at h
      | some w =>
        simp only [hget, Prod.mk.injEq, Except.ok.injEq] at h
        obtain ⟨rfl, rfl⟩ := h
        simp [staticKind, Store.kinds, hget]
    · intro hk f h
      cases hget : s.get? name with
      | none => simp [staticKind, Store.kinds, hget] at hk
      | some w => simp [eval, Store.fetch, hget] at h
  | .unary op e, s => by
    obtain ⟨ih₁, ih₂⟩ := eval_staticKind e s
    constructor
    · intro v s' h
      rw [eval_unary] at h
      rcases he : e.eval s with ⟨f | x, t⟩ <;>
        simp only [he, Except.bind, Prod.mk.injEq, reduceCtorEq, false_and] at h
      obtain ⟨happly, rfl⟩ := h
      exact staticKind_unary_of op (ih₁ x t he) (UnaryOp.resultKind_of_apply happly)
    · intro hk f h
      obtain ⟨k, G', hke, hop⟩ := staticKind_unary_isSome hk
      rw [eval_unary] at h
      rcases he : e.eval s with ⟨f' | x, t⟩ <;> rw [he] at h
      · cases h
        exact ih₂ (by rw [hke]; rfl) f (by rw [he])
      · -- the operand's kind is the static one, which the operation takes
        have hkx := ih₁ x t he
        rw [hke, Option.some.injEq, Prod.mk.injEq] at hkx
        rw [hkx.1] at hop
        exact UnaryOp.apply_error hop h
  | .binary op l r, s => by
    obtain ⟨ihl₁, ihl₂⟩ := eval_staticKind l s
    constructor
    · intro v s' h
      rcases hl : l.eval s with ⟨f | x, t⟩
      · rw [eval_binary_of_error op r hl] at h
        cases h
      · rw [eval_binary_of_ok op r hl] at h
        obtain ⟨ihr₁, -⟩ := eval_staticKind r t
        rcases hr : r.eval t with ⟨f | y, t'⟩ <;>
          simp only [hr, Except.bind, Prod.mk.injEq, reduceCtorEq, false_and] at h
        obtain ⟨happly, rfl⟩ := h
        exact staticKind_binary_of op (ihl₁ x t hl) (ihr₁ y t' hr)
          (BinaryOp.resultKind_of_apply happly)
    · intro hk f h
      obtain ⟨k₁, G₁, k₂, G₂, hkl, hkr, hop⟩ := staticKind_binary_isSome hk
      rcases hl : l.eval s with ⟨f' | x, t⟩
      · rw [eval_binary_of_error op r hl] at h
        cases h
        exact ihl₂ (by rw [hkl]; rfl) f (by rw [hl])
      · rw [eval_binary_of_ok op r hl] at h
        -- the right operand starts from the context the left one's success reached
        have hkx := ihl₁ x t hl
        rw [hkl, Option.some.injEq, Prod.mk.injEq] at hkx
        obtain ⟨rfl, rfl⟩ := hkx
        obtain ⟨ihr₁, ihr₂⟩ := eval_staticKind r t
        rcases hr : r.eval t with ⟨f' | y, t'⟩ <;> rw [hr] at h
        · cases h
          exact ihr₂ (by rw [hkr]; rfl) f (by rw [hr])
        · have hky := ihr₁ y t' hr
          rw [hkr, Option.some.injEq, Prod.mk.injEq] at hky
          rw [hky.1] at hop
          exact BinaryOp.apply_error hop h
  | .assign name e, s => by
    obtain ⟨ih₁, ih₂⟩ := eval_staticKind e s
    constructor
    · intro v s' h
      rcases he : e.eval s with ⟨f | x, t⟩
      · rw [eval_assign_of_error name he] at h
        cases h
      · rw [eval_assign_of_ok name he] at h
        cases h
        simp only [staticKind, ih₁ v t he, Option.map_some, Store.kinds_set]
    · intro hk f h
      rcases he : e.eval s with ⟨f' | x, t⟩
      · rw [eval_assign_of_error name he] at h
        cases h
        exact ih₂ (staticKind_assign_isSome hk) f (by rw [he])
      · rw [eval_assign_of_ok name he] at h
        cases h

end Expr

/-- Kinds are static. Under the kinds of the store it starts from, a tree that evaluates to `v`
has the static kind of `v`, and the kinds of the store it leaves are the context the static kind
reaches. A tree that has a static kind never fails for an unset name or for a number of the
wrong kind: only for overflow, division by zero, a negative input, a factorial beyond 32 bits or
an undefined cotangent. -/
theorem eval_kind_is_static (e : Expr) (s : Store) :
    (∀ v s', e.eval s = (.ok v, s') → e.staticKind s.kinds = some (v.kind, s'.kinds)) ∧
    ((e.staticKind s.kinds).isSome → ∀ f, (e.eval s).1 = .error f →
      f = .overflow ∨ f = .divisionByZero ∨ (∃ op, f = .negativeInput op) ∨
        f = .factorialOverflow ∨ f = .cotangentUndefined) :=
  have h := e.eval_staticKind s
  ⟨h.1, fun hk f hf => (Failure.isKindError_eq_false_iff f).1 (h.2 hk f hf)⟩

end Calculator
