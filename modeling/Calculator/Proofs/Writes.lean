import Calculator.Session
import Mathlib.Data.Finset.Card

/-! # A session's store is the map its writes build

A session writes in two ways: a `set` step, and an assignment whose value was evaluated. Taken
in order, the writes build a finite map from the empty one (`Writes.lookup`). The store of a
session is that map after every step: it holds under each name the number last written there,
and as many names as were ever written (`Models`).

Which writes an evaluation makes is said by `Expr.record`, evaluation against the writes so
far: subtrees run left to right, an assignment writes after its value, and the first failure
ends the evaluation, so the writes made before it stay. `Session.replay` is a session told this
way. The store's update in place is then a refinement of the append-only writes
(`eval_models`, `Step.run_models`), and the main statement, `run_store_is_written_map`, follows
by induction on the steps.
-/

namespace Calculator

set_option autoImplicit false

/-! ## The map that writes build -/

/-- Writes in the order they were made: a number stored under a name. -/
abbrev Writes := List (String × Number)

namespace Writes

/-- The map that the writes build from the empty map, each write overriding its name. -/
def lookup (ws : Writes) : String → Option Number :=
  ws.foldl (fun m w name => if name = w.1 then some w.2 else m name) fun _ => none

def names (ws : Writes) : Finset String :=
  (ws.map Prod.fst).toFinset

@[simp] theorem lookup_nil : Writes.lookup [] = fun _ => none := rfl

theorem lookup_write (ws : Writes) (name : String) (v : Number) :
    Writes.lookup (ws ++ [(name, v)]) = fun n => if n = name then some v else ws.lookup n := by
  simp [lookup, List.foldl_append]

theorem isSome_lookup_iff (ws : Writes) (name : String) :
    (ws.lookup name).isSome ↔ name ∈ ws.names := by
  induction ws using List.reverseRecOn with
  | nil => simp [names]
  | append_singleton ws w ih =>
    rw [lookup_write]
    by_cases h : name = w.1
    · simp [names, h]
    · simp [names, h] at ih ⊢
      exact ih

end Writes

/-! ## The store's own lemmas -/

namespace Store

/-- The names a store holds, in the order they were first set. -/
def keys (s : Store) : List String :=
  s.entries.map Prod.fst

theorem lookup_cons_ne {k n : String} {w : Number} {es : List (String × Number)} (h : n ≠ k) :
    ((k, w) :: es).lookup n = es.lookup n := by
  simp [List.lookup_cons, beq_false_of_ne h]

theorem lookup_setEntry (name : String) (v : Number) (n : String) :
    ∀ es : List (String × Number), (setEntry name v es).lookup n =
      if n = name then some v else es.lookup n
  | [] => by
    by_cases h : n = name
    · simp [setEntry, h]
    · simp [setEntry, h, lookup_cons_ne h]
  | (k, w) :: rest => by
    by_cases hk : k = name
    · subst hk
      by_cases h : n = k
      · simp [setEntry, h]
      · simp [setEntry, h, lookup_cons_ne h]
    · have ih := lookup_setEntry name v n rest
      by_cases h : n = k
      · subst h
        simp [setEntry, hk]
      · simp [setEntry, hk, lookup_cons_ne h, ih]

theorem get?_set (s : Store) (name : String) (v : Number) :
    (s.set name v).get? = fun n => if n = name then some v else s.get? n := by
  funext n
  exact lookup_setEntry name v n s.entries

theorem mem_keys_iff (s : Store) (n : String) : n ∈ s.keys ↔ (s.get? n).isSome := by
  simp [keys, get?, List.lookup_isSome_iff]

theorem keys_setEntry (name : String) (v : Number) :
    ∀ es : List (String × Number), (setEntry name v es).map Prod.fst =
      if name ∈ es.map Prod.fst then es.map Prod.fst else es.map Prod.fst ++ [name]
  | [] => by simp [setEntry]
  | (k, w) :: rest => by
    have ih := keys_setEntry name v rest
    by_cases hk : k = name
    · subst hk
      simp [setEntry]
    · by_cases hm : name ∈ rest.map Prod.fst
      · simp [setEntry, hk, ih, hm]
      · simp [setEntry, hk, ih, hm, Ne.symm hk]

theorem nodup_keys_set (s : Store) (name : String) (v : Number) (h : s.keys.Nodup) :
    (s.set name v).keys.Nodup := by
  simp only [keys, set]
  rw [keys_setEntry]
  split
  · exact h
  · rename_i hm
    refine List.nodup_append.2 ⟨h, List.nodup_singleton name, ?_⟩
    intro a ha b hb
    rw [List.mem_singleton] at hb
    subst hb
    rintro rfl
    exact hm ha

end Store

/-! ## A store that models writes -/

/-- A store models writes when it holds under each name what the writes leave there, and holds
each name once. -/
structure Models (s : Store) (ws : Writes) : Prop where
  lookup : s.get? = ws.lookup
  nodup : s.keys.Nodup

namespace Models

theorem empty : Models Store.empty [] :=
  ⟨rfl, List.nodup_nil⟩

theorem set {s : Store} {ws : Writes} (h : Models s ws) (name : String) (v : Number) :
    Models (s.set name v) (ws ++ [(name, v)]) := by
  refine ⟨?_, Store.nodup_keys_set s name v h.nodup⟩
  rw [Store.get?_set, Writes.lookup_write, h.lookup]

theorem size {s : Store} {ws : Writes} (h : Models s ws) : s.size = ws.names.card := by
  have hkeys : s.keys.toFinset = ws.names := by
    ext n
    rw [List.mem_toFinset, Store.mem_keys_iff, h.lookup, Writes.isSome_lookup_iff]
  rw [← hkeys, List.toFinset_card_of_nodup h.nodup]
  simp [Store.size, Store.keys]

end Models

/-! ## Evaluation as writes -/

namespace Expr

/-- Evaluation against the writes made so far, giving the result and the writes after it. A
variable reads the number last written under its name; the subtrees of an operation run left
to right, and an assignment writes once its value is known; the first failure ends the
evaluation and keeps the writes made before it. -/
def record : Expr → Writes → Except Failure Number × Writes
  | .lit value, ws => (.ok value, ws)
  | .var name, ws =>
    (match ws.lookup name with
      | some v => .ok v
      | none => .error .unboundVariable, ws)
  | .unary op operand, ws =>
    match operand.record ws with
    | (.ok x, ws) => (op.apply x, ws)
    | (.error f, ws) => (.error f, ws)
  | .binary op left right, ws =>
    match left.record ws with
    | (.ok x, ws) =>
      match right.record ws with
      | (.ok y, ws) => (op.apply x y, ws)
      | (.error f, ws) => (.error f, ws)
    | (.error f, ws) => (.error f, ws)
  | .assign name value, ws =>
    match value.record ws with
    | (.ok x, ws) => (.ok x, ws ++ [(name, x)])
    | (.error f, ws) => (.error f, ws)

def assignFree : Expr → Bool
  | .lit _ | .var _ => true
  | .unary _ operand => operand.assignFree
  | .binary _ left right => left.assignFree && right.assignFree
  | .assign _ _ => false

/-- The simulation: evaluating on a store that models the writes gives the result of the
evaluation told as writes, and a store that models the writes after it. The induction is on
the tree; a failure in a subtree passes the store it reached up unchanged. -/
theorem eval_models : ∀ (e : Expr) {s : Store} {ws : Writes}, Models s ws →
    (e.eval s).1 = (e.record ws).1 ∧ Models (e.eval s).2 (e.record ws).2
  | .lit _, _, _, h => ⟨rfl, h⟩
  | .var name, s, ws, h => by
    have hget : s.get? name = ws.lookup name := congrFun h.lookup name
    refine ⟨?_, h⟩
    simp only [eval, record, Store.fetch, hget]
    cases ws.lookup name <;> rfl
  | .unary op operand, s, ws, h => by
    obtain ⟨hr, hm⟩ := eval_models operand h
    simp only [eval, record]
    rcases hev : operand.eval s with ⟨r, s'⟩
    rcases hrec : operand.record ws with ⟨r', ws'⟩
    rw [hev, hrec] at hr hm
    dsimp only at hr hm
    subst hr
    cases r with
    | ok x => exact ⟨rfl, hm⟩
    | error f => exact ⟨rfl, hm⟩
  | .binary op left right, s, ws, h => by
    obtain ⟨hr, hm⟩ := eval_models left h
    simp only [eval, record]
    rcases hev : left.eval s with ⟨r, s'⟩
    rcases hrec : left.record ws with ⟨r', ws'⟩
    rw [hev, hrec] at hr hm
    dsimp only at hr hm
    subst hr
    cases r with
    | error f => exact ⟨rfl, hm⟩
    | ok x =>
      obtain ⟨hr₂, hm₂⟩ := eval_models right hm
      dsimp only
      rcases hev₂ : right.eval s' with ⟨r₂, s''⟩
      rcases hrec₂ : right.record ws' with ⟨r₂', ws''⟩
      rw [hev₂, hrec₂] at hr₂ hm₂
      dsimp only at hr₂ hm₂
      subst hr₂
      cases r₂ with
      | ok y => exact ⟨rfl, hm₂⟩
      | error f => exact ⟨rfl, hm₂⟩
  | .assign name value, s, ws, h => by
    obtain ⟨hr, hm⟩ := eval_models value h
    simp only [eval, record]
    rcases hev : value.eval s with ⟨r, s'⟩
    rcases hrec : value.record ws with ⟨r', ws'⟩
    rw [hev, hrec] at hr hm
    dsimp only at hr hm
    subst hr
    cases r with
    | ok x => exact ⟨rfl, hm.set name x⟩
    | error f => exact ⟨rfl, hm⟩

/-- A tree without assignments leaves the store as it found it, whether it succeeds or fails. -/
theorem eval_store_of_assignFree : ∀ (e : Expr) (s : Store), e.assignFree → (e.eval s).2 = s
  | .lit _, _, _ => rfl
  | .var _, _, _ => rfl
  | .unary op operand, s, h => by
    have ih := eval_store_of_assignFree operand s h
    simp only [eval]
    rcases hev : operand.eval s with ⟨r, s'⟩
    rw [hev] at ih
    cases r <;> exact ih
  | .binary op left right, s, h => by
    simp only [assignFree, Bool.and_eq_true] at h
    have ihl := eval_store_of_assignFree left s h.1
    simp only [eval]
    rcases hev : left.eval s with ⟨r, s'⟩
    rw [hev] at ihl
    dsimp only at ihl
    cases r with
    | error f => exact ihl
    | ok x =>
      have ihr := eval_store_of_assignFree right s' h.2
      dsimp only
      rcases hev₂ : right.eval s' with ⟨r₂, s''⟩
      rw [hev₂] at ihr
      cases r₂ <;> exact ihr.trans ihl
  | .assign _ _, _, h => by simp [assignFree] at h

end Expr

/-! ## Sessions told as writes -/

namespace Session

/-- The writes after a step, from the writes `ws` before it: an evaluated line adds the writes
of its evaluation and `set` adds its own; a line that is not an expression, `get` and `fetch`
add none. -/
def Step.record (ws : Writes) : Step → Writes
  | .eval line =>
    match Expr.parse line with
    | .error _ => ws
    | .ok tree => (tree.record ws).2
  | .set name value => ws ++ [(name, value)]
  | .get _ => ws
  | .fetch _ _ => ws

/-- What a `get` step reads: the number last written under its name. -/
def Step.reads (ws : Writes) : Step → Option (Option Number)
  | .get name => some (ws.lookup name)
  | _ => none

/-- A session told as its writes: for each step, what a `get` reads, and the writes after it. -/
def replay (ws : Writes) : List Step → List (Option (Option Number) × Writes)
  | [] => []
  | step :: steps => (step.reads ws, step.record ws) :: replay (step.record ws) steps

/-- A step's answer and store agree with the replay: the store is the map the writes build and
holds as many names as were written, and a `get` answers what it reads. -/
def Agrees (r : Answer × Store) (q : Option (Option Number) × Writes) : Prop :=
  r.2.get? = q.2.lookup ∧ r.2.size = q.2.names.card ∧ ∀ x ∈ q.1, r.1 = .found x

theorem Step.run_eval_store (s : Store) (line : String) :
    ((Step.eval line).run s).2 =
      match Expr.parse line with
      | .error _ => s
      | .ok tree => (tree.eval s).2 := by
  simp only [Step.run, Store.runLine]
  cases Expr.parse line with
  | error e => rfl
  | ok tree =>
    dsimp only
    rcases tree.eval s with ⟨r, s'⟩
    cases r <;> rfl

/-- The step lemma: from a store that models the writes so far, a step leaves a store that
models the writes after it, and a `get` answers the number last written. -/
theorem Step.run_models {s : Store} {ws : Writes} (h : Models s ws) :
    ∀ step : Step, Models (step.run s).2 (step.record ws) ∧
      ∀ x ∈ step.reads ws, (step.run s).1 = .found x
  | .eval line => by
    refine ⟨?_, by simp [Step.reads]⟩
    rw [Step.run_eval_store]
    simp only [Step.record]
    cases Expr.parse line with
    | error e => exact h
    | ok tree => exact (tree.eval_models h).2
  | .set name value => ⟨h.set name value, by simp [Step.reads]⟩
  | .get name => by
    refine ⟨h, ?_⟩
    simp only [Step.reads, Option.mem_def, Option.some.injEq, Step.run]
    rintro x rfl
    rw [h.lookup]
  | .fetch name expected => by
    refine ⟨?_, by simp [Step.reads]⟩
    simp only [Step.run, Step.record]
    cases s.fetch name expected <;> exact h

/-- The run lemma: from a store that models the writes so far, every step of a session agrees
with the replay. -/
theorem run_models {s : Store} {ws : Writes} (h : Models s ws) :
    ∀ steps : List Step, List.Forall₂ Agrees (run s steps) (replay ws steps)
  | [] => List.Forall₂.nil
  | step :: steps => by
    obtain ⟨hm, hread⟩ := Step.run_models h step
    exact List.Forall₂.cons ⟨hm.lookup, hm.size, hread⟩ (run_models hm steps)

end Session

/-- Session store semantics. Along any session from the empty store, the store after each step
is the finite map that the writes made so far build from the empty map, in order: each `set`,
and each assignment whose evaluation completed, taken in evaluation order up to the first
failure (`Expr.record`). It holds as many names as were ever written, and a `get` answers the
number last written under its name. A tree without assignments leaves the store as it was,
whether it succeeds or fails. -/
theorem run_store_is_written_map (steps : List Session.Step) :
    List.Forall₂ (fun (r : Session.Answer × Store) (q : Option (Option Number) × Writes) =>
        r.2.get? = q.2.lookup ∧ r.2.size = q.2.names.card ∧ ∀ x ∈ q.1, r.1 = .found x)
      (Session.run Store.empty steps) (Session.replay [] steps) ∧
    ∀ (tree : Expr) (s : Store), tree.assignFree → (tree.eval s).2 = s :=
  ⟨Session.run_models Models.empty steps, Expr.eval_store_of_assignFree⟩

/-- `(x <- 1) / (x <- 0)`: both writes complete before the division fails, so `x` is `0`. -/
example :
    (Expr.binary .divide (.assign "x" (.lit (.int 1))) (.assign "x" (.lit (.int 0)))).eval
      Store.empty = (.error .divisionByZero, ⟨[("x", .int 0)]⟩) := rfl

end Calculator
