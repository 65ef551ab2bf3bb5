import Calculator.Failure

/-! # The variables of a session

A `Store` holds the named numbers of a session, each name once, in the order the names were
first set. Setting a name replaces its number in place or appends it.

`Store.fetch` reads a name, either as any number or as one kind: an unset name fails with
`variable does not exist`, a number of the other kind with `variable is not of expected type`,
whose cause names the variable, the kind it holds and the kind asked for.
-/

namespace Calculator

set_option autoImplicit false

/-- Named numbers, each name once. -/
structure Store where
  entries : List (String × Number)

namespace Store

def empty : Store :=
  ⟨[]⟩

/-- Replaces the number of the first entry named `name`, or appends one. -/
def setEntry (name : String) (value : Number) : List (String × Number) → List (String × Number)
  | [] => [(name, value)]
  | (n, v) :: rest => if n = name then (n, value) :: rest else (n, v) :: setEntry name value rest

def get? (s : Store) (name : String) : Option Number :=
  s.entries.lookup name

def set (s : Store) (name : String) (value : Number) : Store :=
  ⟨setEntry name value s.entries⟩

def size (s : Store) : Nat :=
  s.entries.length

/-- The number under a name, read as any number (`none`) or as one kind. -/
def fetch (s : Store) (name : String) (expected : Option Kind) : Except Failure Number :=
  match s.get? name with
  | none => .error .unboundVariable
  | some v =>
    match expected with
    | none => .ok v
    | some kind => if v.kind = kind then .ok v else .error (.kindMismatch name v.kind kind)

@[simp] theorem get?_empty (name : String) : empty.get? name = none := rfl

end Store

end Calculator
