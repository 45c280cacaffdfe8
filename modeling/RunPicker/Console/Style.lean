/-!
# Styles of printed text

The colours and the styles that a terminal can print in. `Style.paint` wraps a text in the sequences that turn them on
and, at the end, off again.
-/

namespace RunPicker

/-- A colour that a terminal can print in. -/
inductive Colour where
  | black
  | grey
  | red
  | green
  | yellow
  | blue
  | magenta
  | cyan
  | lightGrey
  | darkGrey
  | lightRed
  | lightGreen
  | lightYellow
  | lightBlue
  | lightMagenta
  | lightCyan
  | white
deriving DecidableEq, Inhabited, Repr

namespace Colour

/-- All colours. -/
def all : List Colour :=
  [.black, .grey, .red, .green, .yellow, .blue, .magenta, .cyan, .lightGrey, .darkGrey, .lightRed, .lightGreen,
   .lightYellow, .lightBlue, .lightMagenta, .lightCyan, .white]

/-- The code that turns a colour on. -/
def code : Colour → Nat
  | .black | .grey => 30
  | .red => 31
  | .green => 32
  | .yellow => 33
  | .blue => 34
  | .magenta => 35
  | .cyan => 36
  | .lightGrey => 37
  | .darkGrey => 90
  | .lightRed => 91
  | .lightGreen => 92
  | .lightYellow => 93
  | .lightBlue => 94
  | .lightMagenta => 95
  | .lightCyan => 96
  | .white => 97

/-- The name of a colour. -/
def name : Colour → String
  | .black => "black"
  | .grey => "grey"
  | .red => "red"
  | .green => "green"
  | .yellow => "yellow"
  | .blue => "blue"
  | .magenta => "magenta"
  | .cyan => "cyan"
  | .lightGrey => "light_grey"
  | .darkGrey => "dark_grey"
  | .lightRed => "light_red"
  | .lightGreen => "light_green"
  | .lightYellow => "light_yellow"
  | .lightBlue => "light_blue"
  | .lightMagenta => "light_magenta"
  | .lightCyan => "light_cyan"
  | .white => "white"

/-- The colour of a name. -/
def ofName? (name : String) : Option Colour :=
  all.find? fun colour => colour.name == name

end Colour

/-- A style that a terminal can print in. -/
inductive Style where
  | bold
  | dark
  | underline
  | blink
  | reversed
  | concealed
deriving DecidableEq, Inhabited, Repr

namespace Style

/-- All styles. -/
def all : List Style :=
  [.bold, .dark, .underline, .blink, .reversed, .concealed]

/-- The code that turns a style on. -/
def code : Style → Nat
  | .bold => 1
  | .dark => 2
  | .underline => 4
  | .blink => 5
  | .reversed => 7
  | .concealed => 8

/-- The name of a style. -/
def name : Style → String
  | .bold => "bold"
  | .dark => "dark"
  | .underline => "underline"
  | .blink => "blink"
  | .reversed => "reverse"
  | .concealed => "concealed"

/-- The style of a name. -/
def ofName? (name : String) : Option Style :=
  all.find? fun style => style.name == name

/-- The sequence that turns the style or the colour of a code on. -/
def sequence (code : Nat) : String :=
  "\x1b[" ++ toString code ++ "m"

/-- The sequence that turns every style and colour off. -/
def reset : String := sequence 0

/-- The text in a colour and in some styles, the last of which comes first. -/
def paint (colour : Colour) (styles : List Style) (text : String) : String :=
  styles.foldl (fun painted style => sequence style.code ++ painted) (sequence colour.code ++ text) ++ reset

end Style

end RunPicker
