import RunPicker.Moment
import RunPicker.Number.Real64

/-!
# Values

The values that documents and parameters hold. Values of different kinds are equal when they stand for the same number
(`true`, `1` and `1.0`), and mappings are equal whatever the order of their entries. `Entries` holds the operations on
the entries of a mapping, which keep the order in which the keys came.
-/

namespace RunPicker

/-- A value of a document. -/
inductive Value where
  | null
  | bool (b : Bool)
  | integer (n : Int)
  | number (x : Real64)
  | text (s : String)
  | moment (m : Moment)
  | list (items : List Value)
  | map (entries : List (Value × Value))
deriving Inhabited, Repr

namespace Value

/-- The empty mapping. -/
def empty : Value := .map []

/-- Does the value count as true? Null, false, zeros and everything empty do not. -/
def isTrue : Value → Bool
  | .null => false
  | .bool b => b
  | .integer n => n != 0
  | .number x => !x.isZero
  | .text s => !s.isEmpty
  | .moment _ => true
  | .list items => !items.isEmpty
  | .map entries => !entries.isEmpty

/-- Is the value a mapping? -/
def isMap : Value → Bool
  | .map _ => true
  | _ => false

/-- Can the value be made a key of a mapping? A list cannot. A key that is a list in a document is not made of one: it
stands for its items. -/
def isKey : Value → Bool
  | .list _ | .map _ => false
  | _ => true

/-- The integer that the value stands for, if it is an integer or a truth value. -/
def integer? : Value → Option Int
  | .bool b => some (if b then 1 else 0)
  | .integer n => some n
  | _ => none

/-- The order of two values that stand for numbers, unless one of them does not. -/
def compareNumbers? : Value → Value → Option (Option Ordering)
  | .number x, .number y => some (x.compare? y)
  | .number x, b => b.integer?.map x.compareInt?
  | a, .number y => a.integer?.map fun n => (y.compareInt? n).map Ordering.swap
  | a, b => match a.integer?, b.integer? with
    | some m, some n => some (some (compare m n))
    | _, _ => none

/-- Do both values stand for the same number? -/
def sameNumber (a b : Value) : Bool :=
  compareNumbers? a b == some (some .eq)

mutual

/-- Are the values equal? -/
def equal : Value → Value → Bool
  | .null, .null => true
  | .text s, .text t => s == t
  | .moment m, .moment m' => m == m'
  | .list items, .list items' => equalLists items items'
  | .map entries, .map entries' => entries.length == entries'.length && heldBy entries' entries
  | a, b => sameNumber a b

/-- Are the lists equal, one item after the other? -/
def equalLists : List Value → List Value → Bool
  | [], [] => true
  | a :: as, b :: bs => equal a b && equalLists as bs
  | _, _ => false

/-- Is each of the entries among the others? -/
def heldBy (others : List (Value × Value)) : List (Value × Value) → Bool
  | [] => true
  | (key, value) :: rest =>
    others.any (fun other => equal key other.1 && equal value other.2) && heldBy others rest

end

/-- Is the text not after the other in the order of their characters? -/
def textAtMost (s t : String) : Bool :=
  !(t < s)

mutual

/-- Is the value at most the other? Nothing is said of values that have no order. -/
def atMost? : Value → Value → Option Bool
  | .text s, .text t => some (textAtMost s t)
  | .list items, .list items' => atMostLists? items items'
  | a, b => (compareNumbers? a b).map fun order => order == some .lt || order == some .eq

/-- Is the list at most the other, by the first items that differ? -/
def atMostLists? : List Value → List Value → Option Bool
  | [], _ => some true
  | _ :: _, [] => some false
  | a :: as, b :: bs => if equal a b then atMostLists? as bs else atMost? a b

end

end Value

/-! ## Entries -/

/-- What stands under the keys of a mapping, in the order in which the keys came. -/
abbrev Entries (α : Type) := List (Value × α)

namespace Entries

variable {α : Type}

/-- What stands under a key. -/
def find? (entries : Entries α) (key : Value) : Option α :=
  (List.find? (fun entry => Value.equal key entry.1) entries).map Prod.snd

/-- What stands under a key that is a text. -/
def named? (entries : Entries α) (name : String) : Option α :=
  find? entries (.text name)

/-- The entries with one set: in the place of the key if it is there, which stays as it was written, and otherwise at
the end. -/
def insert : Entries α → Value → α → Entries α
  | [], key, value => [(key, value)]
  | entry :: rest, key, value =>
    if Value.equal key entry.1 then (entry.1, value) :: rest else entry :: insert rest key value

/-- The entries with some set, one after the other. -/
def insertAll (entries : Entries α) (pairs : List (Value × α)) : Entries α :=
  pairs.foldl (fun entries pair => insert entries pair.1 pair.2) entries

/-- The entries of a list of pairs, where a later pair replaces an earlier one of its key. -/
def ofPairs (pairs : List (Value × α)) : Entries α :=
  insertAll [] pairs

end Entries

end RunPicker
