import RunPicker.Text.Cut

/-!
# Switches

Some words of a command line are switches. A switch is a flag, or it takes a value: what follows its name in the same
word, or else the next word whatever that is. `Switch.read` tells the switches of a command line from its other words.
-/

namespace RunPicker

/-- What a switch does to the options that were read so far. -/
inductive SwitchEffect (α : Type) where
  | flag (apply : α → α)
  | valued (apply : String → α → α)

/-- A switch: its names, and what it does. A name of a dash and one character is a short name. -/
structure Switch (α : Type) where
  names : List String
  effect : SwitchEffect α

namespace Switch

variable {α : Type}

/-- The options after a word, and what is still to be done with the next word, which is a value then. -/
abbrev Reading (α : Type) := α × Option (String → α → α)

/-- Is the name a short name? -/
def isShortName (name : String) : Bool :=
  name.length == 2

/-- The effect of the switch with a long name. -/
def longEffect? (switches : List (Switch α)) (name : String) : Option (SwitchEffect α) :=
  if isShortName name then none else (switches.find? fun switch => switch.names.contains name).map Switch.effect

/-- The effect of the switch whose short name is a dash and the character. -/
def shortEffect? (switches : List (Switch α)) (c : Char) : Option (SwitchEffect α) :=
  (switches.find? fun switch => switch.names.contains (String.ofList ['-', c])).map Switch.effect

/-- Reads the short names that stand together behind one dash. The value of a switch is what is left of the word. -/
def readShortNames (switches : List (Switch α)) (options : α) : List Char → Option (Reading α)
  | [] => some (options, none)
  | c :: rest => match shortEffect? switches c with
    | none => none
    | some (.flag apply) => readShortNames switches (apply options) rest
    | some (.valued apply) =>
      if rest.isEmpty then some (options, some apply) else some (apply (String.ofList rest) options, none)

/-- Reads a word that begins with a dash: a long name with or without a value, or else short names. -/
def readWord (switches : List (Switch α)) (options : α) (word : String) : Option (Reading α) :=
  let (name, value?) := Text.cutAt '=' word
  match longEffect? switches name, value? with
  | some (.flag apply), none => some (apply options, none)
  | some (.flag _), some _ => none
  | some (.valued apply), some value => some (apply value options, none)
  | some (.valued apply), none => some (options, some apply)
  | none, _ => match word.toList with
    | '-' :: '-' :: _ => none
    | cs => readShortNames switches options (cs.drop 1)

/-- Does the word name switches? -/
def isSwitchWord (word : String) : Bool :=
  match word.toList with
  | '-' :: _ :: _ => true
  | _ => false

/-- Reads words. Two dashes end the switches, and so does the first word that names none unless the two may be mixed.
What comes out are the options and the words that name no switches. -/
def readFrom (switches : List (Switch α)) (mixed : Bool) : Reading α → List String → Option (α × List String)
  | (options, none), [] => some (options, [])
  | (_, some _), [] => none
  | (options, some apply), word :: rest => readFrom switches mixed (apply word options, none) rest
  | (options, none), word :: rest =>
    if word == "--" then some (options, rest)
    else if isSwitchWord word then
      (readWord switches options word).bind fun reading => readFrom switches mixed reading rest
    else if mixed then
      (readFrom switches mixed (options, none) rest).map fun (options, words) => (options, word :: words)
    else some (options, word :: rest)

/-- Reads words, beginning with the given options. -/
def read (switches : List (Switch α)) (mixed : Bool) (options : α) (words : List String) : Option (α × List String) :=
  readFrom switches mixed (options, none) words

end Switch

end RunPicker
