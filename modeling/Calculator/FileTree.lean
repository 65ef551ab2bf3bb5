/-! # A tree of files and how a path finds a file in it

An `Entry` is a directory of named entries, a file, a symbolic link (a path, followed from the
directory that holds it) or a fixed link (a place in the tree that it leads to directly).

`Entry.resolve` finds where an absolute path leads, one part at a time:

* an empty part and `.` stay where they are, and `..` goes up to the parent of the directory
  reached so far (the root is its own parent);
* any other part must name an entry of the directory reached so far; a link is followed at
  once, so a later `..` goes up from where the link led;
* every part, the empty part after a final `/` included, must stand in a directory: nothing
  follows a file;
* at most forty links are followed.

`Entry.read?` gives the text of the file a path leads to; a directory, a file that cannot be
read as text, a missing name and a relative path give none.

`Entry.host` is the tree that a calculator run sees: the usual top directories, the devices
under `/dev` (the null device is empty, and the standard streams lead to the process's open
files), and under `/proc` the first process and the calculator's own, reached through `self`
and `thread-self` only, with its open files and its link back to the root.

This module describes the host the calculator runs on, not the calculator. The commands take
the files they can read as a function from paths to texts (`Command.outcome`), and
`(Entry.host stdin).read?` is that function on a Linux host with nothing else mounted. No
theorem of the library depends on it.
-/

namespace Calculator

set_option autoImplicit false

/-- An entry of a file tree. -/
inductive Entry where
  /-- A directory with its named entries. -/
  | dir (entries : List (String × Entry))
  /-- A file, with its text when it can be read as text. -/
  | file (text : Option String)
  /-- A symbolic link to a path, absolute or relative to the directory that holds the link. -/
  | link (target : String)
  /-- A link straight to a place of the tree, given by the names from the root. -/
  | fixed (place : List String)

namespace Entry

/-- The entry at a place of the tree, given by the names from the root. -/
def at? : Entry → List String → Option Entry
  | e, [] => some e
  | .dir entries, name :: rest =>
    match entries.lookup name with
    | some e => e.at? rest
    | none => none
  | _, _ :: _ => none

/-- The place that the parts lead to from the directory at `here`, following at most `fuel`
links. -/
def walk (root : Entry) : Nat → List String → List String → Option (List String)
  | _, here, [] => some here
  | fuel, here, part :: rest =>
    match root.at? here with
    | some (.dir entries) =>
      if part = "" || part = "." then walk root fuel here rest
      else if part = ".." then walk root fuel here.dropLast rest
      else
        match entries.lookup part with
        | none => none
        | some (.link target) =>
          match fuel with
          | 0 => none
          | fuel + 1 =>
            let start := if target.startsWith "/" then [] else here
            match walk root fuel start (target.splitOn "/") with
            | some place => walk root fuel place rest
            | none => none
        | some (.fixed place) => walk root fuel place rest
        | some _ => walk root fuel (here ++ [part]) rest
    | _ => none
termination_by fuel _ parts => (fuel, parts.length)
decreasing_by
  · exact Prod.Lex.right _ (by simp)
  · exact Prod.Lex.right _ (by simp)
  · exact Prod.Lex.left _ _ (by omega)
  · exact Prod.Lex.left _ _ (by omega)
  · exact Prod.Lex.right _ (by simp)
  · exact Prod.Lex.right _ (by simp)

/-- The place an absolute path leads to. -/
def resolve (root : Entry) (path : String) : Option (List String) :=
  if path.startsWith "/" then walk root 40 [] (path.splitOn "/") else none

/-- The text of the file a path leads to. -/
def read? (root : Entry) (path : String) : Option String :=
  match root.resolve path with
  | some place =>
    match root.at? place with
    | some (.file text) => text
    | _ => none
  | none => none

/-- A directory with no entries that can be named. -/
def emptyDir : Entry :=
  .dir []

/-- The place of the calculator's own process directory. Its number is not known before the
run, so it stands under the empty name, which no part of a path can spell: the directory is
reached through `self` and `thread-self` only, and its one thread likewise. -/
def ownProcess : List String :=
  ["proc", ""]

/-- A process directory: the open files, the link back to the root, and, for the process
itself, its one thread under `task`. The standard input holds `stdin`; standard output and
error are files that hold nothing yet when they are opened for reading. -/
def process (stdin : String) (withTask : Bool) : Entry :=
  let own := [
    ("fd", .dir [
      ("0", .file (some stdin)),
      ("1", .file (some "")),
      ("2", .file (some ""))]),
    ("root", .fixed [])]
  if withTask then .dir (own ++ [("task", .dir [("", .dir own)])]) else .dir own

/-- The files of a calculator run whose standard input is `stdin`. -/
def host (stdin : String) : Entry :=
  .dir [
    ("dev", .dir [
      ("null", .file (some "")),
      ("zero", .file none),
      ("full", .file none),
      ("random", .file none),
      ("urandom", .file none),
      ("tty", .file none),
      ("console", .file none),
      ("ptmx", .file none),
      ("pts", emptyDir),
      ("shm", emptyDir),
      ("mqueue", emptyDir),
      ("fd", .link "/proc/self/fd"),
      ("stdin", .link "/proc/self/fd/0"),
      ("stdout", .link "/proc/self/fd/1"),
      ("stderr", .link "/proc/self/fd/2"),
      ("core", .link "/proc/kcore")]),
    ("proc", .dir [
      ("1", emptyDir),
      ("", process stdin true),
      ("self", .fixed ownProcess),
      ("thread-self", .fixed (ownProcess ++ ["task", ""]))]),
    ("usr", .dir [
      ("bin", emptyDir),
      ("lib", emptyDir),
      ("sbin", emptyDir),
      ("local", emptyDir),
      ("share", emptyDir),
      ("include", emptyDir)]),
    ("bin", .link "usr/bin"),
    ("lib", .link "usr/lib"),
    ("sbin", .link "usr/sbin"),
    ("boot", emptyDir),
    ("etc", emptyDir),
    ("home", emptyDir),
    ("media", emptyDir),
    ("mnt", emptyDir),
    ("opt", emptyDir),
    ("root", emptyDir),
    ("run", emptyDir),
    ("srv", emptyDir),
    ("sys", emptyDir),
    ("tmp", emptyDir),
    ("var", emptyDir)]

end Entry

end Calculator
