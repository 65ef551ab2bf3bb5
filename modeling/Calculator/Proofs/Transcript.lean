import Calculator.Command
import Mathlib.Logic.ExistsUnique

/-! # A run prints one line for each line of its input

`calculator run`, or the calculator with no command, reads the lines of its input
(`Session.lines`) in order against one store. A line of blanks only is skipped. Every other line
prints a line of its own: `Result: ` and the number when the line is read and evaluated, or
`Error: ` and the reason it failed. The next line starts from the store this line left. A line
that cannot be read leaves the store as it was; a line that is read leaves the store its
evaluation reached, also when the evaluation failed after some of its assignments.

`Session.Answers` says what one line prints and leaves, one constructor for each way a line
ends, and `Session.Prints` threads the store through the lines, one answer each. The main
statement, `run_prints_session_fold`, says that a run prints exactly these answers, each on a
line of its own, ends with status 0, and that the input determines them.
-/

namespace Calculator

set_option autoImplicit false

/-! ## Messages and numbers are one line each -/

theorem newline_not_mem_toDigits (n : Nat) : '\n' ∉ Nat.toDigits 10 n := fun h => by
  have hdigit := Nat.isDigit_of_mem_toDigits (b := 10) (by decide) (by decide) h
  exact absurd hdigit (by decide)

theorem Decimal.newline_not_mem_plain (d : Decimal) : '\n' ∉ d.plain.toList := by
  have hds := newline_not_mem_toDigits d.digits
  simp only [Decimal.plain, Decimal.zeros]
  split
  · simp [hds]
  split
  · -- the point falls inside the digits
    simp only [String.toList_append, String.toList_ofList, List.mem_append, not_or]
    exact ⟨⟨fun h => hds (List.mem_of_mem_take h), by decide⟩,
      fun h => hds (List.mem_of_mem_drop h)⟩
  · simp [hds]

theorem newline_not_mem_floatText (x : Float) : '\n' ∉ (floatText x).toList := by
  unfold floatText
  cases FloatParts.ofFloat x with
  | nan => decide
  | infinite negative => cases negative <;> decide
  | zero negative => cases negative <;> decide
  | finite negative m q =>
    have hplain := (Decimal.shortest m q).newline_not_mem_plain
    cases negative <;> simp [FloatParts.text, FloatParts.sign, hplain]

theorem Number.newline_not_mem_text (x : Number) : '\n' ∉ x.text.toList := by
  cases x with
  | int n =>
    have hds := newline_not_mem_toDigits
    simp only [Number.text, Int.toString_eq_repr, Int.repr_eq_if]
    split <;> simp [hds]
  | float x => exact newline_not_mem_floatText x

theorem newline_not_mem_append {a b : String} (ha : '\n' ∉ a.toList) (hb : '\n' ∉ b.toList) :
    '\n' ∉ (a ++ b).toList := by
  rw [String.toList_append, List.mem_append, not_or]
  exact ⟨ha, hb⟩

theorem Operator.newline_not_mem_spelling (op : Operator) : '\n' ∉ op.spelling.toList := by
  rw [Operator.spelling, String.toList_ofList]
  cases op <;> decide

theorem UnaryOp.newline_not_mem_symbol (op : UnaryOp) : '\n' ∉ op.symbol.toList := by
  cases op <;> decide

theorem BinaryOp.newline_not_mem_symbol (op : BinaryOp) : '\n' ∉ op.symbol.toList := by
  cases op <;> decide

-- The messages that name an operator are stated by `show`: unfolding the message functions by
-- their equations is much slower than reading the text.
theorem Problem.newline_not_mem_reason (p : Problem) : '\n' ∉ p.reason.toList := by
  cases p with
  | unexpectedOperator op =>
    show '\n' ∉ ("unexpected operator '" ++ op.spelling ++ "'").toList
    exact newline_not_mem_append (newline_not_mem_append (by decide) op.newline_not_mem_spelling)
      (by decide)
  | _ => decide

theorem ParseError.newline_not_mem_reason (e : ParseError) : '\n' ∉ e.reason.toList := by
  cases e with
  | lexical error =>
    show '\n' ∉ ("invalid input at " ++ toString error.position).toList
    refine newline_not_mem_append (by decide) ?_
    rw [Nat.toString_eq_repr, Nat.toList_repr]
    exact newline_not_mem_toDigits _
  | grammar problem _ => exact problem.newline_not_mem_reason

theorem Failure.newline_not_mem_reason (f : Failure) : '\n' ∉ f.reason.toList := by
  cases f with
  | bitwiseOfFloat op =>
    show '\n' ∉ ("one of the inputs to the operator '" ++ op.symbol ++ "' is not an integer").toList
    exact newline_not_mem_append (newline_not_mem_append (by decide) op.newline_not_mem_symbol)
      (by decide)
  | negativeInput op =>
    show '\n' ∉ ("the input to " ++ op.symbol ++ " is negative").toList
    exact newline_not_mem_append (newline_not_mem_append (by decide) op.newline_not_mem_symbol)
      (by decide)
  | kindMismatch => show '\n' ∉ "variable is not of expected type".toList; decide
  | _ => decide

namespace Session

/-! ## One line -/

/-- What a line that is not blank prints on a store, without its line feed, and the store it
leaves: a line that cannot be read prints its parse error and keeps the store; a line that is
read keeps the store its evaluation ends with, and prints the number or the failure. -/
inductive Answers : Store → String → String → Store → Prop
  | unread {s : Store} {line : String} {e : ParseError} :
      Expr.parse line = .error e → Answers s line ("Error: " ++ e.reason) s
  | result {s s' : Store} {line : String} {tree : Expr} {x : Number} :
      Expr.parse line = .ok tree → tree.eval s = (.ok x, s') →
      Answers s line ("Result: " ++ x.text) s'
  | failed {s s' : Store} {line : String} {tree : Expr} {f : Failure} :
      Expr.parse line = .ok tree → tree.eval s = (.error f, s') →
      Answers s line ("Error: " ++ f.reason) s'

namespace Answers

variable {s s' : Store} {line out : String}

theorem printLine_eq (h : Answers s line out s') : printLine s line = (out ++ "\n", s') := by
  cases h with
  | unread hp => simp [printLine, Store.runLine, hp, LineError.reason]
  | result hp he => simp [printLine, Store.runLine, hp, he]
  | failed hp he => simp [printLine, Store.runLine, hp, he, LineError.reason]

theorem unique {s₁ s₂ : Store} {out₁ out₂ : String} (h₁ : Answers s line out₁ s₁)
    (h₂ : Answers s line out₂ s₂) : out₁ = out₂ ∧ s₁ = s₂ := by
  have h := h₁.printLine_eq.symm.trans h₂.printLine_eq
  simpa only [Prod.mk.injEq, String.append_left_inj] using h

theorem oneLine (h : Answers s line out s') : '\n' ∉ out.toList := by
  cases h with
  | unread => simpa using ParseError.newline_not_mem_reason _
  | result => simpa using Number.newline_not_mem_text _
  | failed => simpa using Failure.newline_not_mem_reason _

end Answers

theorem printLine_answers (s : Store) (line : String) :
    ∃ out s', Answers s line out s' ∧ printLine s line = (out ++ "\n", s') := by
  cases hp : Expr.parse line with
  | error e => exact ⟨_, _, .unread hp, (Answers.unread hp).printLine_eq⟩
  | ok tree =>
    rcases he : tree.eval s with ⟨_ | _, s'⟩
    · exact ⟨_, _, .failed hp he, (Answers.failed hp he).printLine_eq⟩
    · exact ⟨_, _, .result hp he, (Answers.result hp he).printLine_eq⟩

/-! ## The lines of a run -/

/-- What lines print from a store, one answer for each line that is not blank, in order: each
line starts from the store the line before it left. -/
inductive Prints : Store → List String → List String → Prop
  | nil {s : Store} : Prints s [] []
  | blank {s : Store} {line : String} {lines outs : List String} :
      Text.allBlank line = true → Prints s lines outs → Prints s (line :: lines) outs
  | answer {s s' : Store} {line : String} {lines : List String} {out : String}
      {outs : List String} :
      Text.allBlank line = false → Answers s line out s' → Prints s' lines outs →
      Prints s (line :: lines) (out :: outs)

namespace Prints

variable {s : Store} {lines outs : List String}

theorem unique {outs' : List String} (h : Prints s lines outs) (h' : Prints s lines outs') :
    outs = outs' := by
  induction h generalizing outs' with
  | nil => cases h'; rfl
  | blank hb _ ih =>
    cases h' with
    | blank _ h' => exact ih h'
    | answer hb' => rw [hb] at hb'; cases hb'
  | answer hb ha _ ih =>
    cases h' with
    | blank hb' => rw [hb] at hb'; cases hb'
    | answer _ ha' h' =>
      -- the same line gives the same answer and store, so the rest starts alike
      obtain ⟨rfl, rfl⟩ := ha.unique ha'
      rw [ih h']

theorem oneLine (h : Prints s lines outs) : ∀ out ∈ outs, '\n' ∉ out.toList := by
  induction h with
  | nil => simp
  | blank _ _ ih => exact ih
  | answer _ ha _ ih =>
    intro out hout
    rcases List.mem_cons.1 hout with rfl | hout
    · exact ha.oneLine
    · exact ih out hout

end Prints

/-- The run lemma: printing lines from a store is the concatenation of the answers that `Prints`
relates them to, each followed by a line feed. -/
theorem printLines_prints (s : Store) (lines : List String) :
    ∃ outs, Prints s lines outs ∧ printLines s lines = String.join (outs.map (· ++ "\n")) := by
  induction lines generalizing s with
  | nil => exact ⟨[], .nil, rfl⟩
  | cons line lines ih =>
    cases hb : Text.allBlank line with
    | true =>
      obtain ⟨outs, hp, heq⟩ := ih s
      exact ⟨outs, .blank hb hp, by simp [printLines, hb, heq]⟩
    | false =>
      obtain ⟨out, s', ha, hline⟩ := printLine_answers s line
      obtain ⟨outs, hp, heq⟩ := ih s'
      exact ⟨out :: outs, .answer hb ha hp, by simp [printLines, hb, hline, heq]⟩

end Session

/-! ## A run -/

theorem outcomeOfArgs_run (text : String) (contents : String → Option String) :
    Command.outcomeOfArgs [] text contents = ⟨Session.transcript text, 0⟩ ∧
      Command.outcomeOfArgs ["run"] text contents = ⟨Session.transcript text, 0⟩ :=
  ⟨rfl, rfl⟩

/-- A run is the session fold. With no command or with `run` and no file, the calculator ends
with status 0 and prints one line for each line of its input that is not blank, in order, and
nothing else: the answer of that line on the store left by all the lines before it. The answers
are determined by the input. -/
theorem run_prints_session_fold (text : String) (contents : String → Option String) :
    ∃! outs : List String, Session.Prints Store.empty (Session.lines text) outs ∧
      (∀ out ∈ outs, '\n' ∉ out.toList) ∧
      Command.outcomeOfArgs [] text contents = ⟨String.join (outs.map (· ++ "\n")), 0⟩ ∧
      Command.outcomeOfArgs ["run"] text contents = ⟨String.join (outs.map (· ++ "\n")), 0⟩ := by
  obtain ⟨outs, hp, heq⟩ := Session.printLines_prints Store.empty (Session.lines text)
  obtain ⟨hnone, hrun⟩ := outcomeOfArgs_run text contents
  have htext : Session.transcript text = String.join (outs.map (· ++ "\n")) := heq
  refine ⟨outs, ⟨hp, hp.oneLine, ?_, ?_⟩, fun outs' h' => h'.1.unique hp⟩
  · rw [hnone, htext]
  · rw [hrun, htext]

end Calculator
