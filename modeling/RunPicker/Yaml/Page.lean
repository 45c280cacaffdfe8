/-!
# Pages

A document that is being written: the text so far, the column, and what stands right before the place: whether it is
blank, and whether nothing but indicators has been written on the line. A page also knows the anchors on it.
-/

namespace RunPicker.Yaml

/-- A document that is being written. -/
structure Page where
  text : String
  column : Nat
  afterBlank : Bool
  atLineStart : Bool
  isOpen : Bool
  anchors : List String
deriving Inhabited, Repr

/-- The column behind which lines are folded. -/
def bestWidth : Nat := 80

namespace Page

/-- The page on which nothing is written. -/
def blank : Page := ⟨"", 0, true, true, false, []⟩

/-- Writes characters. -/
def put (cs : List Char) (page : Page) : Page :=
  { page with text := page.text ++ String.ofList cs, column := page.column + cs.length }

/-- Breaks the line. -/
def breakLine (c : Char) (page : Page) : Page :=
  { page with text := page.text.push c, column := 0, afterBlank := true, atLineStart := true }

/-- Says what stands right before the place. -/
def mark (afterBlank atLineStart : Bool) (page : Page) : Page :=
  { page with afterBlank := afterBlank, atLineStart := atLineStart }

/-- Moves to an indentation, on a new line unless the place is on the way to it. -/
def indentTo (indent : Nat) (page : Page) : Page :=
  let page :=
    if !page.atLineStart || page.column > indent || (page.column == indent && !page.afterBlank) then page.breakLine '\n'
    else page
  if page.column < indent then
    { page.put (List.replicate (indent - page.column) ' ') with afterBlank := true }
  else page

/-- Writes an indicator, with a space before it if one is needed and missing. `keepsStart` says that the place still
counts as the start of the line. -/
def indicate (cs : List Char) (needsBlank keepsStart : Bool) (page : Page) : Page :=
  let page := page.put (if page.afterBlank || !needsBlank then cs else ' ' :: cs)
  { page with afterBlank := false, atLineStart := page.atLineStart && keepsStart, isOpen := false }

end Page

end RunPicker.Yaml
