import Calculator.Eval
import Calculator.Expr.Parse
import Calculator.Text.Blank

/-! # Sessions

A session is a sequence of steps on one store: evaluating a line (reading it as a tree, then
evaluating the tree), setting a name, getting a name, or fetching a name as a kind.
`Session.run` answers every step and keeps the store after each.

`Session.transcript` is what the calculator prints for a text of lines: it cuts the text into
lines (`Session.lines`), skips the lines that hold blanks only, and prints `Result: ` and the
number for each other line, or `Error: ` and the reason it failed. One store serves all lines,
so a failing line does not end the session.
-/

namespace Calculator

set_option autoImplicit false

/-- Why a line gives no number: it is not an expression, or its evaluation failed. -/
inductive LineError where
  | parse (error : ParseError)
  | eval (failure : Failure)

def LineError.reason : LineError → String
  | .parse error => error.reason
  | .eval failure => failure.reason

/-- The number of a line and the store after it. A line that is not an expression leaves the
store as it was. -/
def Store.runLine (s : Store) (line : String) : Except LineError Number × Store :=
  match Expr.parse line with
  | .error e => (.error (.parse e), s)
  | .ok tree =>
    match tree.eval s with
    | (.ok x, s) => (.ok x, s)
    | (.error f, s) => (.error (.eval f), s)

namespace Session

/-! ## Steps -/

/-- One step of a session. -/
inductive Step where
  | eval (line : String)
  | set (name : String) (value : Number)
  | get (name : String)
  | fetch (name : String) (expected : Option Kind)

/-- The answer to a step. -/
inductive Answer where
  | value (x : Number)
  | lineError (error : LineError)
  | failure (f : Failure)
  | done
  | found (x : Option Number)

/-- The answer to a step and the store after it. -/
def Step.run (s : Store) : Step → Answer × Store
  | .eval line =>
    match s.runLine line with
    | (.ok x, s) => (.value x, s)
    | (.error e, s) => (.lineError e, s)
  | .set name value => (.done, s.set name value)
  | .get name => (.found (s.get? name), s)
  | .fetch name expected =>
    match s.fetch name expected with
    | .ok x => (.value x, s)
    | .error f => (.failure f, s)

/-- The answers to steps taken in order from a store, each with the store after it. -/
def run (s : Store) : List Step → List (Answer × Store)
  | [] => []
  | step :: steps =>
    let (answer, s) := step.run s
    (answer, s) :: run s steps

/-! ## Lines of text -/

/-- Drops one carriage return at the end of a line. -/
def dropReturn (line : String) : String :=
  if line.endsWith "\r" then String.ofList line.toList.dropLast else line

/-- The lines of a text: the pieces between line feeds, each without one carriage return that
ends it; a line feed ends a line, so the text after the last one is a line only when it is not
empty, and it keeps a carriage return it ends with. -/
def lines (text : String) : List String :=
  match (text.splitOn "\n").reverse with
  | [] => []
  | last :: terminated =>
    let whole := (terminated.reverse).map dropReturn
    if last.isEmpty then whole else whole ++ [last]

/-- What the calculator prints for one line, and the store after it. -/
def printLine (s : Store) (line : String) : String × Store :=
  match s.runLine line with
  | (.ok x, s) => ("Result: " ++ x.text ++ "\n", s)
  | (.error e, s) => ("Error: " ++ e.reason ++ "\n", s)

/-- What the calculator prints for lines evaluated in order from a store. -/
def printLines (s : Store) : List String → String
  | [] => ""
  | line :: rest =>
    if Text.allBlank line then printLines s rest
    else
      let (out, s) := printLine s line
      out ++ printLines s rest

/-- What the calculator prints for a text of lines, from an empty store. -/
def transcript (text : String) : String :=
  printLines Store.empty (lines text)

end Session

end Calculator
