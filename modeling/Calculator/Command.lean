import Calculator.Session

/-! # The command line

The calculator is called as `calculator [COMMAND]`:

* `run [FILENAME]`, or no command: evaluates the lines of the file, or of the standard input
  when no file is given, and prints one line for each (`Session.transcript`); the status is 0;
* `tokenize LINE`: prints the display of each token of the line, then `EOF  null`; a lexical
  error ends the list early and the status is 1;
* `parse LINE`: prints the tree of the line, or nothing with status 1;
* `help [COMMAND]`, `-h` or `--help`: prints the help of the calculator or of a command.

`Command.ofArgs` reads the arguments in order. An argument that begins with `-` (other than `-`
alone) is an option, up to a `--`, after which all are values. The only option is help; any
other option, a missing or surplus value, an empty file name or an unknown command is a usage
error, which prints nothing on the standard output and ends with status 2. Errors and help are
decided in the order the arguments come: `run "" -h` is an error, `run -h ""` is help.

A file that cannot be read ends `run` with status 1 and prints nothing; which files can be read
is given by the caller (`Entry.read?` on a file tree, for instance).
-/

namespace Calculator

set_option autoImplicit false

/-! ## Commands -/

/-- The commands of the calculator. -/
inductive Subcommand where
  | run
  | tokenize
  | parse
  | help
  deriving DecidableEq, Repr

/-- What the command line asks for. -/
inductive Command where
  | run (file : Option String)
  | tokenize (line : String)
  | parse (line : String)
  | help (topic : Option Subcommand)
  deriving DecidableEq, Repr

/-- What a command prints on the standard output, and the status it ends with. -/
structure Outcome where
  stdout : String
  status : Nat
  deriving DecidableEq, Repr

/-- The usage error: nothing on the standard output, status 2. -/
def Outcome.usage : Outcome :=
  ⟨"", 2⟩

/-! ## Help -/

namespace Subcommand

def ofName? : String → Option Subcommand
  | "run" => some .run
  | "tokenize" => some .tokenize
  | "parse" => some .parse
  | "help" => some .help
  | _ => none

/-- What a command does, in one line. -/
def about : Subcommand → String
  | .run => "Evaluate lines from a file, or from stdin when no file is given"
  | .tokenize => "Print the tokens of one line"
  | .parse => "Print the parsed tree of one line"
  | .help => "Print this message or the help of the given subcommand(s)"

/-- The usage line and argument list of a command. -/
def usage : Subcommand → String × String
  | .run => ("calculator run [FILENAME]", "  [FILENAME]  \n")
  | .tokenize => ("calculator tokenize <LINE>", "  <LINE>  \n")
  | .parse => ("calculator parse <LINE>", "  <LINE>  \n")
  | .help => ("calculator help [COMMAND]...", "  [COMMAND]...  Print help for the subcommand(s)\n")

def helpText (c : Subcommand) : String :=
  let (line, arguments) := c.usage
  let options := if c = .help then "" else "\nOptions:\n  -h, --help  Print help\n"
  c.about ++ "\n\nUsage: " ++ line ++ "\n\nArguments:\n" ++ arguments ++ options

end Subcommand

def helpText : String :=
  "Usage: calculator [COMMAND]\n\nCommands:\n" ++
    "  run       " ++ Subcommand.run.about ++ "\n" ++
    "  tokenize  " ++ Subcommand.tokenize.about ++ "\n" ++
    "  parse     " ++ Subcommand.parse.about ++ "\n" ++
    "  help      " ++ Subcommand.help.about ++ "\n" ++
    "\nOptions:\n  -h, --help  Print help\n"

/-! ## Reading the arguments -/

/-- What an argument is, before a `--`. -/
inductive Argument where
  | help
  | otherOption
  | value (text : String)
  | separator

/-- An argument read before a `--`: `--help`, and `-h` or a group of short options that
starts with `h`, ask for help; `--` alone separates; `-` alone is a value. -/
def Argument.ofString (a : String) : Argument :=
  match a.toList with
  | ['-', '-'] => .separator
  | '-' :: '-' :: rest => if rest = "help".toList then .help else .otherOption
  | '-' :: 'h' :: _ => .help
  | '-' :: _ :: _ => .otherOption
  | _ => .value a

/-- The values of a command, read in order up to `limit` of them, each of which `accepts` must
allow; `none` for a usage error, `some none` when help is asked. -/
def collectValues (limit : Nat) (accepts : String → Bool) :
    Bool → List String → List String → Option (Option (List String))
  | _, acc, [] => some (some acc.reverse)
  | escaped, acc, a :: rest =>
    let kind := if escaped then Argument.value a else Argument.ofString a
    match kind with
    | .separator => collectValues limit accepts true acc rest
    | .help => some none
    | .otherOption => none
    | .value v =>
      if acc.length < limit && accepts v then collectValues limit accepts escaped (v :: acc) rest
      else none

/-- A file name must not be empty. -/
def isFileName (name : String) : Bool :=
  !name.isEmpty

def isLine (_ : String) : Bool :=
  true

/-- The command of a command line after the command's name. -/
def Subcommand.withArgs (c : Subcommand) (args : List String) : Option Command :=
  match c with
  | .help =>
    match args with
    | [] => some (.help none)
    | [name] => (Subcommand.ofName? name).map fun topic => .help (some topic)
    | _ => none
  | .run =>
    match collectValues 1 isFileName false [] args with
    | some (some []) => some (.run none)
    | some (some [file]) => some (.run (some file))
    | some none => some (.help (some .run))
    | _ => none
  | .tokenize =>
    match collectValues 1 isLine false [] args with
    | some (some [line]) => some (.tokenize line)
    | some none => some (.help (some .tokenize))
    | _ => none
  | .parse =>
    match collectValues 1 isLine false [] args with
    | some (some [line]) => some (.parse line)
    | some none => some (.help (some .parse))
    | _ => none

/-- The command a command line asks for, or `none` for a usage error. -/
def Command.ofArgs : List String → Option Command
  | [] => some (.run none)
  | a :: rest =>
    match Argument.ofString a with
    | .separator => if rest.isEmpty then some (.run none) else none
    | .help => some (.help none)
    | .otherOption => none
    | .value name =>
      match Subcommand.ofName? name with
      | some c => c.withArgs rest
      | none => none

/-! ## Running -/

def displayLines (tokens : List Token) : String :=
  String.join (tokens.map fun t => t.display ++ "\n")

/-- What a command prints and its status, given the standard input and the contents of the
files it can read. -/
def Command.outcome (stdin : String) (contents : String → Option String) : Command → Outcome
  | .run none => ⟨Session.transcript stdin, 0⟩
  | .run (some file) =>
    match contents file with
    | some text => ⟨Session.transcript text, 0⟩
    | none => ⟨"", 1⟩
  | .tokenize line =>
    match Token.scanLine line with
    | (tokens, none) => ⟨displayLines tokens ++ (Token.endOf line).display ++ "\n", 0⟩
    | (tokens, some _) => ⟨displayLines tokens, 1⟩
  | .parse line =>
    match Expr.parse line with
    | .ok tree => ⟨tree.text ++ "\n", 0⟩
    | .error _ => ⟨"", 1⟩
  | .help none => ⟨helpText, 0⟩
  | .help (some c) => ⟨c.helpText, 0⟩

/-- What a command line prints and its status. -/
def Command.outcomeOfArgs (args : List String) (stdin : String)
    (contents : String → Option String) : Outcome :=
  match Command.ofArgs args with
  | some c => c.outcome stdin contents
  | none => Outcome.usage

end Calculator
