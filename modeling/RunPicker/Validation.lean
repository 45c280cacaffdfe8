import RunPicker.Value.Display

/-!
# Checked calls

A function whose arguments are checked before it runs. `Call.check` checks the listed parameters that a call passes, in
the listed order, and stops at the first that is refused. `Callee.bind` then gives each parameter its value, or finds
that the call does not fit the function. Each of the two matches the arguments with the parameters in its own way: the
first by the names alone, the second by the places of the parameters, which are filled one after the other.
-/

namespace RunPicker

variable {ν : Type}

/-- The arguments of a call: by position, and by name. -/
structure Call (ν : Type := Value) where
  positional : List ν
  named : List (String × ν)
deriving Inhabited, Repr

/-- A parameter of a function, with the value that it has when it is left out. -/
structure Formal (ν : Type := Value) where
  name : String
  default? : Option ν
deriving Inhabited, Repr

/-- The parameters of a function that may be passed by name: those that may as well be passed by position, and those
that may only be passed by name. -/
structure Signature (ν : Type := Value) where
  positional : List (Formal ν)
  namedOnly : List (Formal ν)
deriving Inhabited, Repr

/-- A function as those who call it see it: its parameters, of which the first may only be passed by position. -/
structure Callee (ν : Type := Value) extends Signature ν where
  positionOnly : List (Formal ν) := []
deriving Inhabited, Repr

/-- A function with these parameters only, all of which may be passed by name. -/
instance : Coe (Signature ν) (Callee ν) := ⟨fun signature => { signature with }⟩

namespace Callee

/-- The parameters that may be passed by position, in their order. -/
def seated (callee : Callee ν) : List (Formal ν) :=
  callee.positionOnly ++ callee.positional

/-- The parameters of a function, those that may be passed by position first. -/
def formals (callee : Callee ν) : List (Formal ν) :=
  callee.seated ++ callee.namedOnly

end Callee

namespace Call

/-- The value of the last argument with a name. -/
def valueOf? (named : List (String × ν)) (name : String) : Option ν :=
  (named.reverse.find? fun argument => argument.1 == name).map Prod.snd

/-- The value that a call passes for a name. An argument by name counts before one by position. -/
def passed? (call : Call ν) (callee : Callee ν) (name : String) : Option ν :=
  (valueOf? call.named name).orElse fun _ =>
    valueOf? ((callee.seated.map Formal.name).zip call.positional) name

/-- Checks the parameters of the given names that the call passes. The first part lists the values that were looked
at, in their order. -/
def check [Textual ν] (call : Call ν) (callee : Callee ν) (accepts : ν → Except Failure Bool) :
    List String → List ν × Except Failure Unit
  | [] => ([], .ok ())
  | name :: rest =>
    match call.passed? callee name with
    | none => check call callee accepts rest
    | some value =>
      match accepts value with
      | .ok true =>
        let (looked, outcome) := check call callee accepts rest
        (value :: looked, outcome)
      | .ok false => ([value], .error (.quoting (Textual.toText value) (.invalidParameter name · "")))
      | .error failure => ([value], .error failure)

end Call

namespace Callee

/-- The place of the parameter that may be passed by a name. -/
def place? (callee : Callee ν) (name : String) : Option Nat :=
  ((callee.positional ++ callee.namedOnly).findIdx? fun formal => formal.name == name).map
    (callee.positionOnly.length + ·)

/-- The places of the parameters with the arguments by position, which take the first ones. -/
def seats (callee : Callee ν) (call : Call ν) : List (Option ν) :=
  call.positional.map some ++ List.replicate (callee.formals.length - call.positional.length) none

/-- Puts an argument by name at the place of its parameter, which has to be there and to be free. -/
def put (callee : Callee ν) (places : List (Option ν)) (argument : String × ν) : Except Failure (List (Option ν)) :=
  match callee.place? argument.1 with
  | none => .error .wrongType
  | some place => match places[place]? with
    | some none => .ok (places.set place (some argument.2))
    | _ => .error .wrongType

/-- The value of a parameter: what stands at its place, or else its default. -/
def settle (formal : Formal ν) (place : Option ν) : Except Failure ν :=
  match place.or formal.default? with
  | some value => .ok value
  | none => .error .wrongType

/-- The values of the parameters in their order, unless the call passes too much, too little or one thing twice. -/
def bind (callee : Callee ν) (call : Call ν) : Except Failure (List ν) :=
  if callee.seated.length < call.positional.length then .error .wrongType
  else do
    let places ← call.named.foldlM callee.put (callee.seats call)
    (callee.formals.zip places).mapM fun slot => settle slot.1 slot.2

end Callee

/-- What a predicate with further arguments says of a value, which stands before them. -/
def askedWith (predicate : Call ν → Except Failure Bool) (further : Call ν) (value : ν) : Except Failure Bool :=
  predicate { further with positional := value :: further.positional }

/-- Calls a function whose parameters of the given names are checked first. The first part lists the values that were
looked at. -/
def checkedCall {α : Type} [Textual ν] (callee : Callee ν) (accepts : ν → Except Failure Bool) (names : List String)
    (body : List ν → Except Failure α) (call : Call ν) : List ν × Except Failure α :=
  let (looked, outcome) := call.check callee accepts names
  (looked, do outcome; body (← callee.bind call))

/-- Does a value lie between two others? The upper one matters only if the lower one is not above. -/
def isBetween (low high value : Value) : Except Failure Bool :=
  match Value.atMost? low value with
  | none => .error .wrongType
  | some false => .ok false
  | some true => match Value.atMost? value high with
    | none => .error .wrongType
    | some inside => .ok inside

end RunPicker
