import Calculator.Command

/-! # The calculator's program

Reads the command line, the standard input and the file a `run` names, prints what
`Command.outcome` gives and ends with its status. A file that cannot be read ends the program
with status 1 and a message on the standard error.
-/

open Calculator

/-- Runs the calculator on its arguments. -/
def main (args : List String) : IO UInt32 := do
  match Command.ofArgs args with
  | none =>
    IO.eprintln "error: invalid arguments; try --help"
    return Outcome.usage.status.toUInt32
  | some command =>
    let stdin ← match command with
      | .run none => (← IO.getStdin).readToEnd
      | _ => pure ""
    let file ← match command with
      | .run (some name) =>
        try
          some <$> IO.FS.readFile name
        catch e =>
          IO.eprintln ("Error: reading " ++ name ++ " failed: " ++ toString e)
          pure none
      | _ => pure none
    let outcome := command.outcome stdin fun _ => file
    IO.print outcome.stdout
    return outcome.status.toUInt32
