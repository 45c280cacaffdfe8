import RunPicker.Failure

/-!
# Faults of documents

What can be wrong with a document: it is malformed, or a scalar in it looks like a value of a kind and is none.
-/

namespace RunPicker.Yaml

/-- A fault of a document. -/
inductive Fault where
  | malformed
  | noValue (failure : Failure)
deriving DecidableEq, Inhabited, Repr

end RunPicker.Yaml
