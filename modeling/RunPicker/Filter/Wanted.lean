/-!
# Wanted parameters

A text lists the parameters that a run is to have, as `name=value` with commas between. `wantedPairs` reads it and drops
what does not fit: a name is what stands on a line up to its first equals sign, a value everything from there up to the
next comma, and the next name starts behind that comma.
-/

namespace RunPicker

/-- The name at the front of a text, up to the first equals sign, and what comes after the sign. A name has no line
feed in it: a line that ends before its equals sign is dropped. `name` holds the characters read so far, last first. -/
def wantedName? (name : List Char) : List Char → Option (List Char × List Char)
  | [] => none
  | '=' :: rest => some (name.reverse, rest)
  | '\n' :: rest => wantedName? [] rest
  | c :: rest => wantedName? (c :: name) rest

/-- The value at the front of a text, up to the first comma, and what comes after the comma. -/
def wantedValue (cs : List Char) : List Char × List Char :=
  (cs.takeWhile (· != ','), (cs.dropWhile (· != ',')).drop 1)

theorem length_wantedName? {name cs front back : List Char} (h : wantedName? name cs = some (front, back)) :
    back.length < cs.length := by
  induction cs generalizing name with
  | nil => simp [wantedName?] at h
  | cons c rest ih =>
    unfold wantedName? at h
    split at h
    · contradiction
    · rename_i heq
      obtain ⟨rfl, rfl⟩ := List.cons.inj heq
      obtain ⟨-, rfl⟩ := Prod.mk.inj (Option.some.inj h)
      simp
    · rename_i heq
      obtain ⟨rfl, rfl⟩ := List.cons.inj heq
      exact Nat.lt_succ_of_lt (ih h)
    · rename_i heq
      obtain ⟨rfl, rfl⟩ := List.cons.inj heq
      exact Nat.lt_succ_of_lt (ih h)

theorem length_wantedValue (cs : List Char) : (wantedValue cs).2.length ≤ cs.length := by
  have h := (List.dropWhile_suffix (l := cs) (· != ',')).length_le
  simp only [wantedValue, List.length_drop]
  omega

/-- The wanted parameters of a list of characters. -/
def wantedChars (cs : List Char) : List (List Char × List Char) :=
  match _h : wantedName? [] cs with
  | none => []
  | some (name, rest) =>
    (name, (wantedValue rest).1) :: wantedChars (wantedValue rest).2
termination_by cs.length
decreasing_by
  have := length_wantedName? _h
  have := length_wantedValue rest
  omega

/-- The names and the values of the parameters that a text wants, in their order. -/
def wantedPairs (text : String) : List (String × String) :=
  (wantedChars text.toList).map fun (name, value) => (String.ofList name, String.ofList value)

end RunPicker
