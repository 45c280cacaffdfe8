import RunPicker.Environment
import RunPicker.Run

/-!
# The context of a selection

What the steps of one selection share: the variables, the run that was accepted last, and the run that was offered last.
-/

namespace RunPicker

/-- The context of a selection. -/
structure Context where
  vars : Environment
  lastMatch : Option Run
  lastCandidate : Option Run
deriving Inhabited, Repr

namespace Context

/-- The context at the start of a selection. -/
def fresh (vars : Environment) : Context :=
  ⟨vars, none, none⟩

/-- The text with its references replaced by the variables of the context. -/
def expand (context : Context) (text : String) : String :=
  context.vars.expand text

/-- Remembers the run that was offered. -/
def recordCandidate (context : Context) (run : Option Run) : Context :=
  { context with lastCandidate := run }

/-- Remembers the run that was accepted. A match cannot be forgotten again. -/
def recordMatch (context : Context) : Option Run → Except Failure Context
  | some run => .ok { context with lastMatch := some run }
  | none => .error .matchReset

end Context

end RunPicker
