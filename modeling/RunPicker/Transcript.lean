import RunPicker.Failure
import RunPicker.Text.Cut
import RunPicker.Text.Lines

/-!
# Transcripts

The transcript of a call of the program is all that it printed, and how it ended. Here it is read back: which runs were
selected (`Transcript.selected`), and whether a call went as expected (`Transcript.confirmSelected`,
`Transcript.confirmFailed`).
-/

namespace RunPicker

/-- What a call printed, how it ended, and the failure that it ended by if it did not end well. -/
structure Transcript where
  output : String
  exitCode : Nat
  failure? : Option Failure
deriving DecidableEq, Inhabited, Repr

/-- Whether a call went as expected, and what is printed about it. -/
structure Verdict where
  passed : Bool
  report : String
deriving DecidableEq, Inhabited, Repr

namespace Transcript

/-- What the lines that name a selected run begin with. -/
def selectedMark : String := " - Selected run - "

/-- The name in a line that names a selected run: what follows the second separator. -/
def nameIn (line : String) : String :=
  String.ofList (Text.lastPiece " - ".toList 2 line.toList)

/-- The names of the runs that were selected. -/
def selected (transcript : Transcript) : List String :=
  ((Text.splitLines transcript.output).filter fun line => selectedMark.isPrefixOf line).map nameIn

/-- What is printed about a call that did not go as expected. -/
def report (transcript : Transcript) : String :=
  let failure := match transcript.failure? with
    | some failure => failure.message ++ "\n"
    | none => ""
  "=== Captured output ===\n" ++ transcript.output ++ "\n=== Inner traceback ===\n" ++ failure

/-- The verdict on a call that went as expected or did not. -/
def confirm (transcript : Transcript) (asExpected : Bool) : Verdict :=
  if asExpected then ⟨true, ""⟩ else ⟨false, transcript.report⟩

/-- Did the call end well, having selected the runs of exactly these names? -/
def confirmSelected (transcript : Transcript) (names : List String) : Verdict :=
  transcript.confirm (transcript.exitCode == 0 && transcript.selected == names)

/-- Did the call end with an error, having printed the message? -/
def confirmFailed (transcript : Transcript) (message : String) : Verdict :=
  transcript.confirm (transcript.exitCode == 1 && Text.holdsWord message transcript.output)

end Transcript

end RunPicker
