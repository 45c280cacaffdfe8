import RunPicker.Text.Quoted
import RunPicker.Yaml.Page
import RunPicker.Yaml.Scalar.Style

/-!
# Writing scalars

A scalar is written in its style, and folded at single spaces behind the best width, unless it is a key. A plain word
that would reach over the best width goes on a new line.
-/

namespace RunPicker.Yaml.Writing

/-- The indentation of folded lines, and whether lines may be folded. The outermost scalar has no indentation. -/
structure Folding where
  indent? : Option Nat
  folds : Bool
deriving Inhabited, Repr

namespace Folding

/-- The indentation of a folded line. -/
def indent (folding : Folding) : Nat :=
  folding.indent?.getD 0

end Folding

/-- The kind of a character for the folding: a space, a line break, or part of a word. -/
inductive RunKind where
  | spaces
  | breaks
  | word
deriving DecidableEq, Inhabited, Repr

/-- The kind of a character. -/
def runKind (c : Char) : RunKind :=
  if c == ' ' then .spaces else if ScalarStyle.breaksLine c then .breaks else .word

/-- The characters in runs of one kind. -/
def runs : List Char → List (RunKind × List Char)
  | [] => []
  | c :: rest => match runs rest with
    | (kind, run) :: more =>
      if runKind c == kind then (kind, c :: run) :: more else (runKind c, [c]) :: (kind, run) :: more
    | [] => [(runKind c, [c])]

/-- Writes a run of a plain scalar. -/
def putPlainRun (folding : Folding) (page : Page) (run : RunKind × List Char) : Page :=
  let (kind, cs) := run
  if kind == .spaces && cs.length == 1 && page.column > bestWidth && folding.folds then
    (page.indentTo folding.indent).mark false false
  else if kind == .word && page.column + cs.length > bestWidth && folding.indent?.any (page.column > ·) then
    (page.indentTo folding.indent).put cs
  else page.put cs

/-- Writes a plain scalar. -/
def putPlain (folding : Folding) (cs : List Char) (page : Page) : Page :=
  if cs.isEmpty then page
  else
    let page := if page.afterBlank then page else page.put [' ']
    (runs cs).foldl (putPlainRun folding) (page.mark false false)

/-- Writes a run of a scalar between single quotes; `isInner` says that the run is neither the first nor the last. -/
def putSingleRun (folding : Folding) (isInner : Bool) (run : RunKind × List Char) (page : Page) : Page :=
  let (kind, cs) := run
  match kind with
  | .spaces =>
    if cs.length == 1 && page.column > bestWidth && folding.folds && isInner then page.indentTo folding.indent
    else page.put cs
  | .breaks =>
    let page := if cs.head? == some '\n' then page.breakLine '\n' else page
    (cs.foldl (fun page c => page.breakLine c) page).indentTo folding.indent
  | .word => page.put (cs.flatMap fun c => if c == '\'' then ['\'', '\''] else [c])

/-- Writes runs of a scalar between single quotes. -/
def putSingleRuns (folding : Folding) (isFirst : Bool) : List (RunKind × List Char) → Page → Page
  | [], page => page
  | run :: rest, page => putSingleRuns folding false rest (putSingleRun folding (!isFirst && !rest.isEmpty) run page)

/-- Writes a scalar between single quotes. -/
def putSingle (folding : Folding) (cs : List Char) (page : Page) : Page :=
  (putSingleRuns folding true (runs cs) (page.indicate ['\''] true false)).indicate ['\''] false false

/-- The letter that stands for a character behind a backslash. -/
def escapeLetter? : Char → Option Char
  | '\x00' => some '0'
  | '\x07' => some 'a'
  | '\x08' => some 'b'
  | '\t' => some 't'
  | '\n' => some 'n'
  | '\x0b' => some 'v'
  | '\x0c' => some 'f'
  | '\r' => some 'r'
  | '\x1b' => some 'e'
  | '"' => some '"'
  | '\\' => some '\\'
  | '\u0085' => some 'N'
  | '\u2028' => some 'L'
  | '\u2029' => some 'P'
  | _ => none

/-- Is the character escaped between double quotes? All that need more than four digits are. -/
def isEscaped (c : Char) : Bool :=
  (escapeLetter? c).isSome || ScalarStyle.isSpecial c || c.toNat > 0xFFFF

/-- The escape of a character. -/
def escape (c : Char) : List Char :=
  match escapeLetter? c with
  | some letter => ['\\', letter]
  | none =>
    let code := c.toNat
    let (letter, width) := if code ≤ 0xFF then ('x', 2) else if code ≤ 0xFFFF then ('u', 4) else ('U', 8)
    '\\' :: letter :: (Text.hexDigits width code).map Char.toUpper

/-- Is a backslash needed where a line is folded at a character? Only a single space reads back without one. -/
def foldNeedsBackslash (before c : Char) (rest : List Char) : Bool :=
  !(c == ' ' && before != ' ' && rest.head? != some ' ')

/-- Writes characters between double quotes. `pending` holds those that are still to be written, the last first, and
`before` the character before. -/
def putDoubleFrom (folding : Folding) : Option Char → List Char → List Char → Page → Page
  | _, pending, [], page => page.put pending.reverse
  | before, pending, c :: rest, page =>
    let escaped := isEscaped c
    let page := if escaped then (page.put pending.reverse).put (escape c) else page
    let pending := if escaped then [] else pending
    let width : Int := if escaped then (page.column : Int) - 1 else page.column + pending.length
    let mayFold := before.isSome && !rest.isEmpty && (c == ' ' || pending.isEmpty) && width > bestWidth
    if mayFold && folding.folds then
      let backslash := foldNeedsBackslash (before.getD c) c rest
      let page := page.put (pending.reverse ++ if backslash then ['\\'] else [])
      let page := (page.indentTo folding.indent).mark false false
      let next := if escaped then rest.head? else some c
      let page := if next == some ' ' && backslash then page.put ['\\'] else page
      let pending := if escaped || (c == ' ' && !backslash) then [] else [c]
      putDoubleFrom folding (some c) pending rest page
    else putDoubleFrom folding (some c) (if escaped then [] else c :: pending) rest page

/-- Writes a scalar between double quotes. -/
def putDouble (folding : Folding) (cs : List Char) (page : Page) : Page :=
  (putDoubleFrom folding none [] cs (page.indicate ['"'] true false)).indicate ['"'] false false

/-- Writes a scalar in a style. -/
def put (style : ScalarStyle) (folding : Folding) (cs : List Char) (page : Page) : Page :=
  match style with
  | .plain => putPlain folding cs page
  | .single => putSingle folding cs page
  | .double => putDouble folding cs page

end RunPicker.Yaml.Writing
