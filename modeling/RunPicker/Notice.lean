import RunPicker.Failure

/-!
# Notices

The messages that tell why a candidate was declined or not found. `Notice.text` is their wording.
-/

namespace RunPicker

/-- A message about the progress of a selection. -/
inductive Notice where
  /-- A filter declined a run. -/
  | declined (filter run : String)
  /-- A filter declined a run because its variables could not be read. -/
  | unreadable (filter run : String) (failure : Failure)
  /-- What a selector was given spells no number. -/
  | notANumber (selector text : String)
  /-- No run has the number that a selector looks for. -/
  | noRunOfNumber (selector : String) (number : Int)
  /-- A job has no run that the permalink of a selector names. -/
  | noRunOfPermalink (selector job : String)
  /-- A selector offered the run that it had offered right before. -/
  | offeredAgain (selector run : String)
  /-- Any other message. -/
  | message (text : String)
deriving DecidableEq, Inhabited, Repr

namespace Notice

/-- The wording of a notice. -/
def text : Notice → String
  | .declined filter run => filter ++ ": " ++ run ++ " is declined"
  | .unreadable filter run failure => filter ++ ": " ++ run ++ " is declined (" ++ failure.message ++ ")"
  | .notANumber selector text => selector ++ ": '" ++ text ++ "' is not a valid run number"
  | .noRunOfNumber selector number => selector ++ ": run #" ++ toString number ++ " does not exist"
  | .noRunOfPermalink selector job => selector ++ ": " ++ job ++ " has no such run"
  | .offeredAgain selector run => selector ++ ": " ++ run ++ " was offered repeatedly"
  | .message text => text

end Notice

end RunPicker
