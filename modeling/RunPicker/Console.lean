import RunPicker.Console.Style
import RunPicker.Notice
import RunPicker.Run.Result
import RunPicker.Text.Blank

/-!
# The console

What a program prints, and the settings of how much and in what colours. Printing appends to `Console.printed`, so that
everything printed before stays; notices are either printed or gathered in `Console.notices`.
-/

namespace RunPicker

/-- How much is printed, whether in colours, and whether warnings are held back. -/
structure Settings where
  verbosity : Int
  coloured : Bool
  quiet : Bool
deriving DecidableEq, Inhabited, Repr

/-- The channel that something is printed to. -/
inductive Channel where
  | output
  | errors
deriving DecidableEq, Inhabited, Repr

/-- What becomes of notices: they are printed when the program is talkative enough, or gathered. -/
inductive Sink where
  | printed
  | gathered
deriving DecidableEq, Inhabited, Repr

/-- The verbosity from which on the progress of a selection is printed. -/
def infoLevel : Int := 1

/-- The verbosity from which on notices and the origins of errors are printed. -/
def debugLevel : Int := 2

/-- A console: its settings, and what was printed and noticed so far. -/
structure Console where
  settings : Settings
  sink : Sink
  printed : List (Channel × String)
  notices : List Notice
deriving DecidableEq, Inhabited, Repr

namespace Settings

/-- Is what needs the given verbosity printed? -/
def shows (settings : Settings) (verbosity : Int) : Bool :=
  verbosity ≤ settings.verbosity

/-- The text in a colour, if there are colours. -/
def paint (settings : Settings) (colour : Colour) (styles : List Style) (text : String) : String :=
  if settings.coloured then Style.paint colour styles text else text

/-- The text in the colour and the styles of the given names, which only matter if there are colours. -/
def paintNamed (settings : Settings) (colour : String) (styles : List String) (text : String) :
    Except Failure String :=
  if settings.coloured then
    match Colour.ofName? colour, styles.mapM Style.ofName? with
    | some colour, some styles => .ok (Style.paint colour styles text)
    | _, _ => .error (.ofCategory .missingKey)
  else .ok text

/-- The tag at the front of a message: a word in capitals between square brackets. -/
def tag (settings : Settings) (word : String) (colour : Colour) : String :=
  "[" ++ settings.paint colour [.bold] (Text.upper word) ++ "]"

/-- The text of a name that stands out. -/
def highlight (settings : Settings) (text : String) : String :=
  settings.paint .blue [.bold] text

/-- The colour of a result by its severity. -/
def resultColour : Result → Colour
  | .success => .green
  | .unstable => .yellow
  | .failure => .red
  | .notBuilt | .aborted => .lightGrey

/-- The text of a result. -/
def resultText (settings : Settings) (result : Result) : String :=
  settings.paint (resultColour result) [.bold] result.name

/-- The text of a heading in brackets. A plain heading is kept as it is, any other is put in title case. -/
def headingText (settings : Settings) (heading : String) (colour : Colour) (plain : Bool) : String :=
  let heading := Text.trim heading
  "\n[" ++ settings.paint colour [.bold] (if plain then heading else Text.title heading) ++ "]\n"

end Settings

namespace Console

/-- The console at the start of a program. -/
def fresh (settings : Settings) (sink : Sink) : Console :=
  ⟨settings, sink, [], []⟩

/-- What was printed to a channel. -/
def printedTo (console : Console) (channel : Channel) : String :=
  String.join (console.printed.filterMap fun (printedChannel, text) =>
    if printedChannel == channel then some text else none)

/-- Everything that was printed, in the order in which it was. -/
def everything (console : Console) : String :=
  String.join (console.printed.map Prod.snd)

/-- Prints a text to a channel. -/
def print (channel : Channel) (text : String) (console : Console) : Console :=
  { console with printed := console.printed ++ [(channel, text)] }

/-- Prints a text to the output, with an end of line or another ending. -/
def write (text : String) (ending : String) (console : Console) : Console :=
  console.print .output (text ++ ending)

/-- Prints a line that needs a verbosity. -/
def inform (verbosity : Int) (text : String) (console : Console) : Console :=
  if console.settings.shows verbosity then console.write text "\n" else console

/-- Prints a line about the progress in detail. -/
def debug (text : String) (console : Console) : Console :=
  console.inform debugLevel (console.settings.tag "debug" .darkGrey ++ " " ++ text)

/-- Prints a warning, unless warnings are held back. -/
def warn (text : String) (ending : String) (console : Console) : Console :=
  if console.settings.quiet then console
  else console.write (console.settings.tag "warning" .yellow ++ " " ++ text) ending

/-- The calls that led to an error, which are not told apart: `<stack>` stands for all of them. -/
def origin (raised : Bool) : String :=
  if raised then "<stack>\n" else ""

/-- Prints an error, and at the verbosity of notices its origin. `raised` says that a failure caused it. -/
def reportError (text : String) (raised : Bool) (console : Console) : Console :=
  let settings := console.settings
  let console := console.print .errors (settings.tag "error" .red ++ " " ++ settings.paint .red [] text ++ "\n")
  if settings.shows debugLevel then console.print .errors (settings.paint .red [] (origin raised) ++ "\n") else console

/-- Prints a heading. -/
def heading (text : String) (colour : Colour) (plain : Bool) (console : Console) : Console :=
  console.write (console.settings.headingText text colour plain) "\n"

/-- Prints an item with its status. The item starts with a capital and goes on in lower case. -/
def item (text status separator : String) (console : Console) : Console :=
  console.write (" - " ++ Text.capitalize (Text.trim text) ++ " " ++ separator ++ " " ++ status) "\n"

/-- Takes a notice: prints it, or gathers it. -/
def note (notice : Notice) (console : Console) : Console :=
  match console.sink with
  | .printed => console.debug notice.text
  | .gathered => { console with notices := console.notices ++ [notice] }

end Console

end RunPicker
