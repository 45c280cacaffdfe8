import RunPicker.Program

/-!
# The command line program

Reads the files that a command line names, runs the program on them, and prints what it printed.
-/

namespace RunPicker

namespace Command

/-- The paths of the files that a command reads. -/
def paths : Command → List String
  | .select history options => history :: options.config?.toList
  | .list history => [history]

end Command

namespace CommandLine

/-- The paths of the files that a command line names. -/
def paths (line : CommandLine) : List String :=
  match line with
  | .command _ (some named) => named.paths
  | _ => []

end CommandLine

namespace Program

/-- The settings at the start of the program. -/
def initialSettings : Settings := ⟨0, true, false⟩

/-- The desk at the start of the program. -/
def initialDesk (files : FileStore) : Desk Shelf :=
  ⟨Console.fresh initialSettings .printed, ⟨files, .empty⟩⟩

/-- The file of a path, if it can be read. Files are read once, so the time of their last change does not matter. -/
def readFile? (path : String) : IO (Option StoredFile) := do
  try return some ⟨← IO.FS.readFile path, 0⟩
  catch _ => return none

/-- The files of some paths. -/
def readFiles (paths : List String) : IO FileStore :=
  paths.foldlM (fun files path => do
    match ← readFile? path with
    | some file => return files.write path file
    | none => return files) []

/-- How the program is called. -/
def usage : String :=
  "Usage: runselect [--no-color] [-v] [--version] (select | log) HISTORY\n" ++
  "select takes: [-c CONFIG] [-s SELECTOR] [-f FILTER]... [-e NAME=VALUE]... [-n COUNT]"

/-- What is left to say once everything is printed: how to call the program, or the failure that it could not report. -/
def lastWords? : Except Failure Unit → Option String
  | .ok _ => none
  | .error (.exited code) => if code == 2 then some usage else none
  | .error failure => some ("The program failed. " ++ failure.message)

/-- Prints what a console printed. -/
def emit (console : Console) : IO Unit :=
  console.printed.forM fun (channel, text) => do
    match channel with
    | .output => IO.print text
    | .errors => IO.eprint text

end Program

end RunPicker

open RunPicker in
/-- Runs the program on the words of a command line. -/
def main (words : List String) : IO UInt32 := do
  let line := CommandLine.ofWords words
  let files ← Program.readFiles line.paths
  let (outcome, desk) := (Program.run line).on (Program.initialDesk files)
  Program.emit desk.console
  (Program.lastWords? outcome).forM IO.eprintln
  return (Program.exitCode outcome).toUInt32
