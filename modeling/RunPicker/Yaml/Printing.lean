import RunPicker.Text.Lines
import RunPicker.Value.Display
import RunPicker.Yaml.Document
import RunPicker.Yaml.Scalar.Writing

/-!
# Printing documents

`Document.print` writes a document: a block in which each level is indented by two columns, while the dashes of a list
under a key are not indented. Null is written as nothing, unless it is a key or the whole document. A part that stands
at several places is written at the first one, under an anchor, and the others are aliases; `Survey` finds these parts.
-/

namespace RunPicker.Yaml

/-- Where a value stands in a document: it is all of it, an item of a list, or a key or a value of a mapping. A short
key stands on one line with its value. -/
inductive Position where
  | root
  | item
  | shortKey
  | longKey
  | value
deriving DecidableEq, Inhabited, Repr

namespace Position

/-- Does the value stand in a mapping? -/
def isInMapping : Position → Bool
  | .shortKey | .longKey | .value => true
  | _ => false

/-- Is the value a key? -/
def isKey : Position → Bool
  | .shortKey | .longKey => true
  | _ => false

end Position

/-- The number of characters that a short key may have, its tag included. -/
def maxShortKey : Nat := 128

/-- The text of a scalar that is no text itself. -/
def scalarText (position : Position) : Value → String
  | .null => if position.isKey || position == .root then "null" else ""
  | .bool b => if b then "true" else "false"
  | .number .nan => ".nan"
  | .number (.infinite negative) => if negative then "-.inf" else ".inf"
  | value => value.display

/-- The name of the tag of a scalar. -/
def tagName : Value → String
  | .null => "!!null"
  | .bool _ => "!!bool"
  | .integer _ => "!!int"
  | .number _ => "!!float"
  | .moment _ => "!!timestamp"
  | _ => "!!str"

/-- Is the key short enough to stand on one line with its value? -/
def isShortKey : Value → Bool
  | .list items => items.isEmpty
  | .map entries => entries.isEmpty
  | key =>
    let text := scalarText .shortKey key
    text.length + (tagName key).length < maxShortKey && !text.toList.any ScalarStyle.breaksLine

/-- The style of a scalar. -/
def styleOf (position : Position) : Value → ScalarStyle
  | .text s => ScalarStyle.ofText (position == .shortKey) s
  | _ => .plain

/-- Writes a scalar inside a block that is indented by `indent?`. -/
def putScalar (position : Position) (indent? : Option Nat) (scalar : Value) (page : Page) : Page :=
  let folding : Writing.Folding := ⟨indent?.map (· + 2), position != .shortKey⟩
  let page := if position == .item then page.indentTo folding.indent else page
  let style := styleOf position scalar
  let page := Writing.put style folding (scalarText position scalar).toList page
  if position == .root && style == .plain then { page with isOpen := true } else page

/-- Writes an empty collection. -/
def putEmpty (opening closing : Char) (page : Page) : Page :=
  (page.indicate [opening] true false).indicate [closing] false false

/-- The indentation of the items of a list. The dashes under a key stand at the indentation of the key. -/
def itemIndent (position : Position) (indent? : Option Nat) (page : Page) : Nat :=
  let isFlush := position.isInMapping && !page.atLineStart
  (indent?.map fun indent => if isFlush then indent else indent + 2).getD 0

/-- Writes the dash of an item at an indentation. -/
def putDash (indent : Nat) (page : Page) : Page :=
  (page.indentTo indent).indicate ['-'] true true

/-- Writes a key of a mapping at an indentation. A list that is a key has items without parts. -/
def putKey (position : Position) (indent : Nat) (key : Value) (page : Page) : Page :=
  match key with
  | .list [] => putEmpty '[' ']' page
  | .list items =>
    let inner := itemIndent position (some indent) page
    items.foldl (fun page item => putScalar .item (some inner) item (putDash inner page)) page
  | .map _ => putEmpty '\x7b' '\x7d' page
  | key => putScalar position (some indent) key page

/-! ## Parts that stand at several places -/

/-- The labels that were met in a document, and those that were met again, in the order in which this happened. -/
structure Survey where
  met : List Nat
  again : List Nat
deriving Inhabited, Repr

namespace Survey

/-- The survey with a part met, and what is inside it if the part is new. -/
def meet (label? : Option Nat) (inside : Survey → Survey) (survey : Survey) : Survey :=
  match label? with
  | none => inside survey
  | some label =>
    if !survey.met.contains label then inside { survey with met := label :: survey.met }
    else if survey.again.contains label then survey
    else { survey with again := survey.again ++ [label] }

mutual

/-- The survey with a document looked through. -/
def ofDocument : Document → Survey → Survey
  | .leaf label? _ => meet label? id
  | .list label? items => meet label? (ofItems items)
  | .map label? entries => meet label? (ofEntries entries)

/-- The survey with the items of a list looked through. -/
def ofItems : List Document → Survey → Survey
  | [], survey => survey
  | item :: rest, survey => ofItems rest (ofDocument item survey)

/-- The survey with the entries of a mapping looked through. -/
def ofEntries : List (Value × Document) → Survey → Survey
  | [], survey => survey
  | (_, value) :: rest, survey => ofEntries rest (ofDocument value survey)

end

end Survey

/-- The name of the anchor of a number, which has three digits at least. -/
def anchorName (number : Nat) : String :=
  let digits := toString number
  "id" ++ String.ofList (List.replicate (3 - digits.length) '0') ++ digits

/-- The name of the anchor of a part, if it needs one. -/
def anchorOf? (shared : List Nat) (label? : Option Nat) : Option String :=
  label?.bind fun label => (shared.idxOf? label).map fun place => anchorName (place + 1)

/-- Writes a part: an alias if its anchor is on the page, and otherwise what `write` writes, behind the anchor. -/
def putAnchored (anchor? : Option String) (write : Bool → Page → Page) (page : Page) : Page :=
  match anchor? with
  | none => write false page
  | some name =>
    if page.anchors.contains name then page.indicate ('*' :: name.toList) true false
    else write true { page.indicate ('&' :: name.toList) true false with anchors := name :: page.anchors }

mutual

/-- Writes a part inside a block that is indented by `indent?`; the outermost block has no indentation. The labels are
those of the parts that stand at several places. -/
def putPart (shared : List Nat) (position : Position) (indent? : Option Nat) : Document → Page → Page
  | .leaf label? value => putAnchored (anchorOf? shared label?) fun isNamed =>
    putScalar (if isNamed && position == .item then .value else position) indent? value
  | .list label? [] => putAnchored (anchorOf? shared label?) fun _ => putEmpty '[' ']'
  | .map label? [] => putAnchored (anchorOf? shared label?) fun _ => putEmpty '\x7b' '\x7d'
  | .list label? items => putAnchored (anchorOf? shared label?) fun _ page =>
    putItems shared (itemIndent position indent? page) items page
  | .map label? entries => putAnchored (anchorOf? shared label?) fun _ page =>
    putEntries shared ((indent?.map (· + 2)).getD 0) entries page

/-- Writes the items of a list at an indentation. -/
def putItems (shared : List Nat) (indent : Nat) : List Document → Page → Page
  | [], page => page
  | item :: rest, page => putItems shared indent rest (putPart shared .item (some indent) item (putDash indent page))

/-- Writes the entries of a mapping at an indentation. -/
def putEntries (shared : List Nat) (indent : Nat) : List (Value × Document) → Page → Page
  | [], page => page
  | (key, value) :: rest, page =>
    let page := page.indentTo indent
    let page :=
      if isShortKey key then (putKey .shortKey indent key page).indicate [':'] false false
      else
        let page := putKey .longKey indent key (page.indicate ['?'] true true)
        (page.indentTo indent).indicate [':'] true true
    putEntries shared indent rest (putPart shared .value (some indent) value page)

end

/-- The text of a document. A plain scalar alone leaves the document open, so its end is marked. -/
def Document.print (document : Document) : String :=
  let shared := (Survey.ofDocument document ⟨[], []⟩).again
  let page := (putPart shared .root none document .blank).indentTo 0
  if page.isOpen then ((page.indicate ['.', '.', '.'] true false).indentTo 0).text else page.text

/-- The document of a value with `indent` spaces in front of each line. -/
def printIndented (indent : Nat) (value : Value) : String :=
  Text.indentLines indent (Document.ofValue value).print

end RunPicker.Yaml
