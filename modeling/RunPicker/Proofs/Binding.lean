import Mathlib.Data.List.Nodup
import Mathlib.Logic.Relation
import RunPicker.Proofs.Results
import RunPicker.Validation

/-!
# What a call gives to the parameters

A call passes values for parameters, by their names or at their places (`Callee.Passes`). `Callee.bind` puts the
arguments at the places of the parameters one after the other. It succeeds if each argument has a parameter of its own
(`Callee.Regular`) and each parameter for which nothing is passed has a default, and gives the parameters these values
(`bind_eq_ok_iff`). A look at the names alone finds the same values (`passed?_eq_some_iff`).
-/

namespace RunPicker

variable {ν : Type}

namespace Callee

/-- No two parameters have the same name. -/
def Distinct (callee : Callee ν) : Prop :=
  (callee.formals.map Formal.name).Nodup

instance (callee : Callee ν) : Decidable callee.Distinct :=
  inferInstanceAs (Decidable (List.Nodup _))

/-- The call passes a value for a parameter: under its name or, if no argument has the name, at its place. In a call
that does both, which no function takes, the value under the name counts. -/
inductive Passes (callee : Callee ν) (call : Call ν) : String → ν → Prop where
  | byName {name : String} {value : ν} (argument : Call.valueOf? call.named name = some value) :
      Passes callee call name value
  | byPosition {place : Nat} {formal : Formal ν} {value : ν} (unnamed : Call.valueOf? call.named formal.name = none)
      (seat : callee.seated[place]? = some formal) (argument : call.positional[place]? = some value) :
      Passes callee call formal.name value

/-- The parameter has a value in the call: the one that is passed for it or, if there is none, its default. -/
inductive Takes (callee : Callee ν) (call : Call ν) (formal : Formal ν) : ν → Prop where
  | passed {value : ν} (passes : callee.Passes call formal.name value) : Takes callee call formal value
  | leftOut {value : ν} (passesNone : ∀ other, ¬callee.Passes call formal.name other)
      (default : formal.default? = some value) : Takes callee call formal value

/-- Each argument of the call has a parameter of its own. -/
structure Regular (callee : Callee ν) (call : Call ν) : Prop where
  /-- There are parameters for all arguments by position. -/
  seated : call.positional.length ≤ callee.seated.length
  /-- No two arguments have the same name. -/
  distinct : (call.named.map Prod.fst).Nodup
  /-- Each name is that of a parameter that may be passed by name, and that is not passed by position. -/
  free : ∀ name ∈ call.named.map Prod.fst, ∃ place formal, callee.formals[place]? = some formal ∧ formal.name = name ∧
    callee.positionOnly.length ≤ place ∧ call.positional.length ≤ place

end Callee

namespace BindingAux

open ResultsAux

/-! ## Arguments by name -/

/-- Of arguments with one name the last counts. -/
theorem valueOf?_append (front back : List (String × ν)) (name : String) :
    Call.valueOf? (front ++ back) name = (Call.valueOf? back name).or (Call.valueOf? front name) := by
  simp [Call.valueOf?, List.find?_append, Option.map_or]

/-- An argument counts if no later one has its name. -/
theorem valueOf?_cons (argument : String × ν) (rest : List (String × ν)) (name : String) :
    Call.valueOf? (argument :: rest) name =
      (Call.valueOf? rest name).or (if argument.1 = name then some argument.2 else none) := by
  rw [← List.singleton_append, valueOf?_append]
  by_cases hname : argument.1 = name <;> simp [Call.valueOf?, hname]

/-- A name has no value if no argument has the name. -/
theorem valueOf?_eq_none_iff {named : List (String × ν)} {name : String} :
    Call.valueOf? named name = none ↔ name ∉ named.map Prod.fst := by
  induction named with
  | nil => simp [Call.valueOf?]
  | cons argument rest ih =>
    rw [valueOf?_cons, Option.or_eq_none_iff, ih, List.map_cons, List.mem_cons, not_or, and_comm, eq_comm (a := name)]
    exact and_congr_left' (by by_cases hname : argument.1 = name <;> simp [hname])

/-- Among arguments with distinct names, the value of a name is that of its argument. -/
theorem valueOf?_eq_some_iff {named : List (String × ν)} (h : (named.map Prod.fst).Nodup) {name : String} {value : ν} :
    Call.valueOf? named name = some value ↔ (name, value) ∈ named := by
  induction named with
  | nil => simp [Call.valueOf?]
  | cons argument rest ih =>
    obtain ⟨hfirst, hrest⟩ := List.nodup_cons.mp h
    rw [valueOf?_cons, List.mem_cons, ← ih hrest]
    by_cases hname : argument.1 = name
    · subst hname
      rw [valueOf?_eq_none_iff.mpr hfirst]
      simp [Prod.ext_iff, eq_comm]
    · rw [if_neg hname, Option.or_none, or_iff_right]
      exact fun heq => hname (congrArg Prod.fst heq).symm

/-! ## Places -/

section

variable {callee : Callee ν}

/-- A call passes the value under the name, or else the one at the place of the parameter. -/
theorem passes_iff {call : Call ν} {name : String} {value : ν} :
    callee.Passes call name value ↔ Call.valueOf? call.named name = some value ∨
      Call.valueOf? call.named name = none ∧ ∃ place : Nat, ∃ formal : Formal ν, callee.seated[place]? = some formal ∧
        formal.name = name ∧ call.positional[place]? = some value := by
  constructor
  · rintro (hnamed | ⟨hunnamed, hseat, hargument⟩)
    · exact .inl hnamed
    · exact .inr ⟨hunnamed, _, _, hseat, rfl, hargument⟩
  · rintro (hnamed | ⟨hunnamed, place, formal, hseat, rfl, hargument⟩)
    · exact .byName hnamed
    · exact .byPosition hunnamed hseat hargument

/-- A name stands at one place. -/
theorem place_unique (hd : callee.Distinct) {place other : Nat} {formal formal' : Formal ν}
    (h : callee.formals[place]? = some formal) (h' : callee.formals[other]? = some formal')
    (hname : formal.name = formal'.name) : place = other := by
  have hplace : (callee.formals.map Formal.name)[place]? = some formal.name := by rw [List.getElem?_map, h]; rfl
  have hother : (callee.formals.map Formal.name)[other]? = some formal.name := by rw [List.getElem?_map, h', hname]; rfl
  obtain ⟨hlt, -⟩ := List.getElem?_eq_some_iff.mp hplace
  exact (List.getElem?_inj hlt hd).mp (hplace.trans hother.symm)

/-- The place of a name is that of its parameter, behind those that are passed by position only. -/
theorem place?_eq_some_iff (hd : callee.Distinct) {name : String} {place : Nat} :
    callee.place? name = some place ↔
      ∃ formal, callee.formals[place]? = some formal ∧ formal.name = name ∧ callee.positionOnly.length ≤ place := by
  have hformals : callee.formals = callee.positionOnly ++ (callee.positional ++ callee.namedOnly) :=
    List.append_assoc _ _ _
  have hback {formal : Formal ν} {offset : Nat} : (callee.positional ++ callee.namedOnly)[offset]? = some formal ↔
      callee.formals[callee.positionOnly.length + offset]? = some formal := by
    rw [hformals, List.getElem?_append_right (Nat.le_add_right _ _), Nat.add_sub_cancel_left]
  rw [Callee.place?, Option.map_eq_some_iff]
  constructor
  · rintro ⟨offset, hoffset, rfl⟩
    obtain ⟨hlt, hname, -⟩ := List.findIdx?_eq_some_iff_getElem.mp hoffset
    exact ⟨_, hback.mp (List.getElem?_eq_getElem hlt), beq_iff_eq.mp hname, Nat.le_add_right _ _⟩
  · rintro ⟨formal, hformal, hname, hle⟩
    obtain ⟨offset, rfl⟩ := Nat.exists_eq_add_of_le hle
    obtain ⟨hlt, hget⟩ := List.getElem?_eq_some_iff.mp (hback.mpr hformal)
    have hsame : ((callee.positional ++ callee.namedOnly)[offset].name == name) = true := by
      rw [hget, hname]
      exact beq_self_eq_true name
    refine ⟨offset, List.findIdx?_eq_some_iff_getElem.mpr ⟨hlt, hsame, fun before hbefore hbeforeSame => ?_⟩, rfl⟩
    -- an earlier parameter of the name would be a second one
    have hthere := hback.mp (List.getElem?_eq_getElem (Nat.lt_trans hbefore hlt))
    have hplace := place_unique hd hthere hformal ((beq_iff_eq.mp hbeforeSame).trans hname.symm)
    omega

/-- No two names have the same place. -/
theorem place?_inj (hd : callee.Distinct) {name other : String} {place : Nat} (h : callee.place? name = some place)
    (h' : callee.place? other = some place) : name = other := by
  obtain ⟨formal, hformal, rfl, -⟩ := (place?_eq_some_iff hd).mp h
  obtain ⟨formal', hformal', rfl, -⟩ := (place?_eq_some_iff hd).mp h'
  rw [Option.some.inj (hformal.symm.trans hformal')]

/-! ## Arguments at their places -/

/-- The places with the arguments by name, in so far as they are free. -/
def filled (callee : Callee ν) (named : List (String × ν)) (places : List (Option ν)) : List (Option ν) :=
  List.zipWith (fun formal place => place.or (Call.valueOf? named formal.name)) callee.formals places

/-- At a place stands what is passed by position, or else what is passed under the name of its parameter. -/
theorem getElem?_filled {place : Nat} {formal : Formal ν} (h : callee.formals[place]? = some formal)
    (named : List (String × ν)) (places : List (Option ν)) :
    (filled callee named places)[place]? =
      places[place]?.map fun value => value.or (Call.valueOf? named formal.name) := by
  rw [filled, List.getElem?_zipWith, h]
  cases places[place]? <;> rfl

/-- Where no parameter is, nothing is filled in. -/
theorem getElem?_filled_none {place : Nat} (h : callee.formals[place]? = none) (named : List (String × ν))
    (places : List (Option ν)) : (filled callee named places)[place]? = none := by
  rw [filled, List.getElem?_zipWith, h]

/-- Without arguments by name the places stay as they are. -/
theorem filled_nil {places : List (Option ν)} (h : places.length = callee.formals.length) :
    filled callee [] places = places := by
  refine List.ext_getElem? fun place => ?_
  cases hformal : callee.formals[place]? with
  | none => rw [getElem?_filled_none hformal, List.getElem?_eq_none (h ▸ List.getElem?_eq_none_iff.mp hformal)]
  | some formal =>
    rw [getElem?_filled hformal]
    cases places[place]? <;> simp [Call.valueOf?]

/-- An argument that is put at a free place stands there as it does when the arguments by name are put together. -/
theorem filled_set (hd : callee.Distinct) {places : List (Option ν)} {place : Nat} {formal : Formal ν}
    (hformal : callee.formals[place]? = some formal) (hfree : places[place]? = some none) (value : ν)
    {rest : List (String × ν)} (hrest : formal.name ∉ rest.map Prod.fst) :
    filled callee rest (places.set place (some value)) = filled callee ((formal.name, value) :: rest) places := by
  refine List.ext_getElem? fun other => ?_
  cases hother : callee.formals[other]? with
  | none => rw [getElem?_filled_none hother, getElem?_filled_none hother]
  | some formal' =>
    rw [getElem?_filled hother, getElem?_filled hother, valueOf?_cons]
    by_cases hplace : other = place
    · subst hplace
      obtain rfl := Option.some.inj (hformal.symm.trans hother)
      obtain ⟨hlt, -⟩ := List.getElem?_eq_some_iff.mp hfree
      rw [List.getElem?_set_self hlt, hfree, valueOf?_eq_none_iff.mpr hrest]
      simp
    · have hname : formal.name ≠ formal'.name := fun hname => hplace (place_unique hd hother hformal hname.symm)
      rw [List.getElem?_set_ne (Ne.symm hplace), if_neg hname, Option.or_none]

/-- An argument by name is put at the place of its parameter, if that is free. -/
theorem put_eq_ok_iff {places after : List (Option ν)} {argument : String × ν} :
    callee.put places argument = .ok after ↔ ∃ place, callee.place? argument.1 = some place ∧
      places[place]? = some none ∧ after = places.set place (some argument.2) := by
  rw [Callee.put]
  cases hplace : callee.place? argument.1 with
  | none => simp
  | some place =>
    rcases hfree : places[place]? with - | - | value <;> simp [hfree, eq_comm]

/-- Once a place is taken, arguments find their places free if they did before and none has the name of the place. -/
theorem free_set_iff (hd : callee.Distinct) {places : List (Option ν)} {first : String} {place : Nat}
    (hplace : callee.place? first = some place) (value : ν) {names : List String} :
    (∀ name ∈ names, ∃ other, callee.place? name = some other ∧ (places.set place (some value))[other]? = some none) ↔
      first ∉ names ∧ ∀ name ∈ names, ∃ other, callee.place? name = some other ∧ places[other]? = some none := by
  have hset (other : Nat) : (places.set place (some value))[other]? = some none ↔
      other ≠ place ∧ places[other]? = some none := by
    rw [List.getElem?_set]
    by_cases heq : place = other
    · rw [if_pos heq]
      split <;> simp [heq]
    · rw [if_neg heq]
      simp [Ne.symm heq]
  simp only [hset]
  constructor
  · intro h
    refine ⟨fun hfirst => ?_, fun name hname => ?_⟩
    · obtain ⟨other, hother, hne, -⟩ := h first hfirst
      exact hne (Option.some.inj (hother.symm.trans hplace))
    · obtain ⟨other, hother, -, hfree⟩ := h name hname
      exact ⟨other, hother, hfree⟩
  · rintro ⟨hfirst, h⟩ name hname
    obtain ⟨other, hother, hfree⟩ := h name hname
    refine ⟨other, hother, fun heq => ?_, hfree⟩
    subst heq
    exact hfirst (place?_inj hd hplace hother ▸ hname)

/-- The arguments by name can be put at their places if all of these are free. -/
theorem foldlM_put_eq_ok_iff (hd : callee.Distinct) {named : List (String × ν)} {places after : List (Option ν)}
    (hlength : places.length = callee.formals.length) :
    named.foldlM callee.put places = .ok after ↔ (named.map Prod.fst).Nodup ∧
      (∀ name ∈ named.map Prod.fst, ∃ place, callee.place? name = some place ∧ places[place]? = some none) ∧
      after = filled callee named places := by
  induction named generalizing places with
  | nil => simp [filled_nil hlength, pure, Except.pure, eq_comm]
  | cons argument rest ih =>
    obtain ⟨name, value⟩ := argument
    have hafter (place : Nat) := @ih (places.set place (some value)) (by rw [List.length_set, hlength])
    rw [List.foldlM_cons, List.map_cons, List.nodup_cons, List.forall_mem_cons]
    constructor
    · intro h
      obtain ⟨middle, hput, h⟩ := exists_of_bind_ok h
      obtain ⟨place, hplace, hfree, rfl⟩ := put_eq_ok_iff.mp hput
      obtain ⟨hdistinct, hrest, rfl⟩ := (hafter place).mp h
      obtain ⟨hfirst, hrest⟩ := (free_set_iff hd hplace value).mp hrest
      obtain ⟨formal, hformal, rfl, -⟩ := (place?_eq_some_iff hd).mp hplace
      exact ⟨⟨hfirst, hdistinct⟩, ⟨⟨place, hplace, hfree⟩, hrest⟩, filled_set hd hformal hfree value hfirst⟩
    · rintro ⟨⟨hfirst, hdistinct⟩, ⟨⟨place, hplace, hfree⟩, hrest⟩, rfl⟩
      obtain ⟨formal, hformal, rfl, -⟩ := (place?_eq_some_iff hd).mp hplace
      rw [put_eq_ok_iff.mpr ⟨place, hplace, hfree, rfl⟩]
      exact (hafter place).mpr ⟨hdistinct, (free_set_iff hd hplace value).mpr ⟨hfirst, hrest⟩,
        (filled_set hd hformal hfree value hfirst).symm⟩

/-! ## The places of a call -/

/-- The arguments by position stand at the first places, in their order. -/
theorem getElem?_seats (call : Call ν) {place : Nat} (h : place < callee.formals.length) :
    (callee.seats call)[place]? = some call.positional[place]? := by
  rw [Callee.seats]
  by_cases hplace : place < call.positional.length
  · rw [List.getElem?_append_left (by rwa [List.length_map]), List.getElem?_map, List.getElem?_eq_getElem hplace]
    rfl
  · have hle := Nat.le_of_not_lt hplace
    rw [List.getElem?_append_right (by rwa [List.length_map]), List.getElem?_replicate, List.length_map,
      if_pos (by omega), List.getElem?_eq_none hle]

/-- There are as many places as parameters, if the arguments by position do not exceed them. -/
theorem length_seats {call : Call ν} (hseated : call.positional.length ≤ callee.seated.length) :
    (callee.seats call).length = callee.formals.length := by
  have hformals : callee.seated.length ≤ callee.formals.length := by
    rw [Callee.formals, List.length_append]
    exact Nat.le_add_right _ _
  rw [Callee.seats, List.length_append, List.length_map, List.length_replicate,
    Nat.add_sub_of_le (Nat.le_trans hseated hformals)]

/-- The parameters that can be passed by position come first. -/
theorem formals_of_seated {place : Nat} {formal : Formal ν} (h : callee.seated[place]? = some formal) :
    callee.formals[place]? = some formal := by
  obtain ⟨hlt, -⟩ := List.getElem?_eq_some_iff.mp h
  rw [Callee.formals, List.getElem?_append_left hlt, h]

/-- The first parameters are those that can be passed by position. -/
theorem seated_of_formals {place : Nat} {formal : Formal ν} (h : callee.formals[place]? = some formal)
    (hlt : place < callee.seated.length) : callee.seated[place]? = some formal := by
  rwa [Callee.formals, List.getElem?_append_left hlt] at h

/-- In a call that fits, what stands at the place of a parameter is what is passed for it. -/
theorem given_iff_passes (hd : callee.Distinct) {call : Call ν} (hregular : callee.Regular call) {place : Nat}
    {formal : Formal ν} (hformal : callee.formals[place]? = some formal) {value : ν} :
    call.positional[place]?.or (Call.valueOf? call.named formal.name) = some value ↔
      callee.Passes call formal.name value := by
  -- a parameter is not passed by name as well as by position
  have hplace (hmem : formal.name ∈ call.named.map Prod.fst) : call.positional[place]? = none := by
    obtain ⟨other, formal', hformal', hname, -, hfree⟩ := hregular.free _ hmem
    obtain rfl := place_unique hd hformal hformal' hname.symm
    exact List.getElem?_eq_none hfree
  rw [passes_iff, Option.or_eq_some_iff]
  constructor
  · rintro (hargument | ⟨-, hnamed⟩)
    · have hunnamed : Call.valueOf? call.named formal.name = none :=
        valueOf?_eq_none_iff.mpr fun hmem => nomatch (hplace hmem).symm.trans hargument
      obtain ⟨hlt, -⟩ := List.getElem?_eq_some_iff.mp hargument
      have hseat := seated_of_formals hformal (Nat.lt_of_lt_of_le hlt hregular.seated)
      exact .inr ⟨hunnamed, place, formal, hseat, rfl, hargument⟩
    · exact .inl hnamed
  · rintro (hnamed | ⟨-, other, formal', hseat, hname, hargument⟩)
    · have hmem : formal.name ∈ call.named.map Prod.fst := by
        by_contra hnot
        exact nomatch (valueOf?_eq_none_iff.mpr hnot).symm.trans hnamed
      exact .inr ⟨hplace hmem, hnamed⟩
    · obtain rfl := place_unique hd (formals_of_seated hseat) hformal hname
      exact .inl hargument

/-- A place is settled with what is passed, or else with the default. -/
theorem settle_eq_ok_iff {formal : Formal ν} {place : Option ν} {value : ν} :
    Callee.settle formal place = .ok value ↔ place.or formal.default? = some value := by
  rw [Callee.settle]
  cases place.or formal.default? <;> simp

/-- A parameter is settled with the value that it takes. -/
theorem settle_given_iff_takes (hd : callee.Distinct) {call : Call ν} (hregular : callee.Regular call) {place : Nat}
    {formal : Formal ν} (hformal : callee.formals[place]? = some formal) {value : ν} :
    Callee.settle formal (call.positional[place]?.or (Call.valueOf? call.named formal.name)) = .ok value ↔
      callee.Takes call formal value := by
  have hgiven (other : ν) : call.positional[place]?.or (Call.valueOf? call.named formal.name) = some other ↔
      callee.Passes call formal.name other := given_iff_passes hd hregular hformal
  rw [settle_eq_ok_iff, Option.or_eq_some_iff, hgiven, Option.eq_none_iff_forall_ne_some]
  simp only [ne_eq, hgiven]
  constructor
  · rintro (hpasses | ⟨hnone, hdefault⟩)
    · exact .passed hpasses
    · exact .leftOut hnone hdefault
  · rintro (hpasses | ⟨hnone, hdefault⟩)
    · exact .inl hpasses
    · exact .inr ⟨hnone, hdefault⟩

/-- The places of a call can be filled if each argument has a parameter of its own. -/
theorem places_eq_ok_iff (hd : callee.Distinct) {call : Call ν} {places : List (Option ν)}
    (hseated : call.positional.length ≤ callee.seated.length) :
    call.named.foldlM callee.put (callee.seats call) = .ok places ↔
      callee.Regular call ∧ places = filled callee call.named (callee.seats call) := by
  have hfree (name : String) :
      (∃ place, callee.place? name = some place ∧ (callee.seats call)[place]? = some none) ↔
        ∃ place formal, callee.formals[place]? = some formal ∧ formal.name = name ∧
          callee.positionOnly.length ≤ place ∧ call.positional.length ≤ place := by
    refine exists_congr fun place => ?_
    rw [place?_eq_some_iff hd]
    constructor
    · rintro ⟨⟨formal, hformal, hname, hle⟩, hnone⟩
      obtain ⟨hlt, -⟩ := List.getElem?_eq_some_iff.mp hformal
      rw [getElem?_seats call hlt] at hnone
      exact ⟨formal, hformal, hname, hle, List.getElem?_eq_none_iff.mp (Option.some.inj hnone)⟩
    · rintro ⟨formal, hformal, hname, hle, hfree⟩
      obtain ⟨hlt, -⟩ := List.getElem?_eq_some_iff.mp hformal
      exact ⟨⟨formal, hformal, hname, hle⟩, by rw [getElem?_seats call hlt, List.getElem?_eq_none hfree]⟩
  rw [foldlM_put_eq_ok_iff hd (length_seats hseated), ← and_assoc]
  simp only [hfree]
  exact and_congr_left' ⟨fun h => ⟨hseated, h.1, h.2⟩, fun h => ⟨h.distinct, h.free⟩⟩

/-- Two lists are related item by item if the items at the same place are. -/
theorem forall₂_iff_getElem? {α β : Type} {related : α → β → Prop} {items : List α} {others : List β} :
    List.Forall₂ related items others ↔ items.length = others.length ∧
      ∀ place : Nat, ∀ item other, items[place]? = some item → others[place]? = some other → related item other := by
  rw [List.forall₂_iff_get]
  refine and_congr_right fun _ => ⟨fun h place item other hitem hother => ?_, fun h place hitem hother => ?_⟩
  · obtain ⟨hlt, rfl⟩ := List.getElem?_eq_some_iff.mp hitem
    obtain ⟨hlt', rfl⟩ := List.getElem?_eq_some_iff.mp hother
    exact h place hlt hlt'
  · exact h place _ _ (List.getElem?_eq_getElem hitem) (List.getElem?_eq_getElem hother)

/-- All parameters are settled with the values that they take. -/
theorem settled_iff_takes (hd : callee.Distinct) {call : Call ν} (hregular : callee.Regular call) {values : List ν} :
    (callee.formals.zip (filled callee call.named (callee.seats call))).mapM
        (fun slot => Callee.settle slot.1 slot.2) = .ok values ↔
      List.Forall₂ (callee.Takes call) callee.formals values := by
  have hlength : (callee.formals.zip (filled callee call.named (callee.seats call))).length =
      callee.formals.length := by
    simp [filled, length_seats hregular.seated]
  rw [mapM_eq_ok_iff, forall₂_iff_getElem?, forall₂_iff_getElem?, hlength]
  refine and_congr_right fun _ => forall_congr' fun place => ?_
  have hslot {formal : Formal ν} (hformal : callee.formals[place]? = some formal) :
      (filled callee call.named (callee.seats call))[place]? =
        some (call.positional[place]?.or (Call.valueOf? call.named formal.name)) := by
    obtain ⟨hlt, -⟩ := List.getElem?_eq_some_iff.mp hformal
    rw [getElem?_filled hformal, getElem?_seats call hlt]
    rfl
  constructor
  · intro h formal value hformal hvalue
    have hzip : (callee.formals.zip (filled callee call.named (callee.seats call)))[place]? =
        some (formal, call.positional[place]?.or (Call.valueOf? call.named formal.name)) :=
      List.getElem?_zip_eq_some.mpr ⟨hformal, hslot hformal⟩
    exact (settle_given_iff_takes hd hregular hformal).mp (h _ value hzip hvalue)
  · rintro h ⟨formal, slot⟩ value hzip hvalue
    obtain ⟨hformal, hgiven⟩ : callee.formals[place]? = some formal ∧ _ = some slot :=
      List.getElem?_zip_eq_some.mp hzip
    obtain rfl := Option.some.inj ((hslot hformal).symm.trans hgiven)
    exact (settle_given_iff_takes hd hregular hformal).mpr (h formal value hformal hvalue)

end

/-- A function gets values in a call if each argument has a parameter of its own: those that are passed, and the
defaults for the others. -/
theorem bind_eq_ok_iff {callee : Callee ν} (hd : callee.Distinct) {call : Call ν} {values : List ν} :
    callee.bind call = .ok values ↔
      callee.Regular call ∧ List.Forall₂ (callee.Takes call) callee.formals values := by
  rw [Callee.bind]
  by_cases hlt : callee.seated.length < call.positional.length
  · rw [if_pos hlt]
    exact iff_of_false nofun fun h => Nat.not_lt.mpr h.1.seated hlt
  have hseated := Nat.le_of_not_lt hlt
  rw [if_neg hlt]
  constructor
  · intro h
    obtain ⟨places, hput, h⟩ := exists_of_bind_ok h
    obtain ⟨hregular, rfl⟩ := (places_eq_ok_iff hd hseated).mp hput
    exact ⟨hregular, (settled_iff_takes hd hregular).mp h⟩
  · rintro ⟨hregular, h⟩
    rw [(places_eq_ok_iff hd hseated).mpr ⟨hregular, rfl⟩]
    exact (settled_iff_takes hd hregular).mpr h

/-- A call that does not fit a function fails for the types. -/
theorem bind_eq_error {callee : Callee ν} {call : Call ν} {failure : Failure} (h : callee.bind call = .error failure) :
    failure = .wrongType := by
  have hput (places : List (Option ν)) (argument : String × ν) (failure : Failure)
      (h : callee.put places argument = .error failure) : failure = .wrongType := by
    rw [Callee.put] at h
    split at h
    · exact (Except.error.inj h).symm
    · split at h
      · exact nomatch h
      · exact (Except.error.inj h).symm
  have hplaces (named : List (String × ν)) (places : List (Option ν))
      (h : named.foldlM callee.put places = .error failure) : failure = .wrongType := by
    induction named generalizing places with
    | nil => exact nomatch h
    | cons argument rest ih =>
      rw [List.foldlM_cons] at h
      rcases bind_error h with h | ⟨after, h⟩
      · exact hput _ _ _ h
      · exact ih after h
  rw [Callee.bind] at h
  split at h
  · exact (Except.error.inj h).symm
  · rcases bind_error h with h | ⟨places, h⟩
    · exact hplaces _ _ h
    · obtain ⟨front, slot, back, -, -, hsettle⟩ := mapM_eq_error_iff.mp h
      rw [Callee.settle] at hsettle
      split at hsettle
      · exact nomatch hsettle
      · exact (Except.error.inj hsettle).symm

/-- Calls that fit a function alike and pass the same values give it the same values. -/
theorem bind_congr {callee : Callee ν} (hd : callee.Distinct) {call other : Call ν}
    (hregular : callee.Regular call ↔ callee.Regular other)
    (hpasses : ∀ name value, callee.Passes call name value ↔ callee.Passes other name value) :
    callee.bind call = callee.bind other := by
  have htakes : callee.Takes call = callee.Takes other := by
    funext formal value
    refine propext ⟨?_, ?_⟩
    · rintro (h | ⟨hnone, hdefault⟩)
      · exact .passed ((hpasses _ _).mp h)
      · exact .leftOut (fun value h => hnone value ((hpasses _ _).mpr h)) hdefault
    · rintro (h | ⟨hnone, hdefault⟩)
      · exact .passed ((hpasses _ _).mpr h)
      · exact .leftOut (fun value h => hnone value ((hpasses _ _).mp h)) hdefault
  have hvalues (values : List ν) : callee.bind call = .ok values ↔ callee.bind other = .ok values := by
    rw [bind_eq_ok_iff hd, bind_eq_ok_iff hd, hregular, htakes]
  cases hcall : callee.bind call with
  | ok values => exact ((hvalues values).mp hcall).symm
  | error failure =>
    cases hother : callee.bind other with
    | ok values => exact nomatch hcall.symm.trans ((hvalues values).mpr hother)
    | error failure' => rw [bind_eq_error hcall, bind_eq_error hother]

/-! ## Arguments under the names of their parameters -/

/-- The names that are put together with values keep their order. -/
theorem keys_zip_sublist (names : List String) (values : List ν) :
    ((names.zip values).map Prod.fst).Sublist names := by
  induction names generalizing values with
  | nil => exact List.Sublist.refl _
  | cons name rest ih =>
    cases values with
    | nil => exact List.nil_sublist _
    | cons value values => exact (ih values).cons_cons name

/-- By the names alone, a call passes for a parameter what it passes by name or at the place of the parameter. -/
theorem passed?_eq_some_iff {callee : Callee ν} (hd : callee.Distinct) {call : Call ν} {name : String} {value : ν} :
    call.passed? callee name = some value ↔ callee.Passes call name value := by
  have hseated : (callee.seated.map Formal.name).Nodup := by
    rw [Callee.Distinct, Callee.formals, List.map_append] at hd
    exact hd.of_append_left
  have hzip : Call.valueOf? ((callee.seated.map Formal.name).zip call.positional) name = some value ↔
      ∃ place : Nat, ∃ formal : Formal ν, callee.seated[place]? = some formal ∧ formal.name = name ∧
        call.positional[place]? = some value := by
    rw [valueOf?_eq_some_iff (hseated.sublist (keys_zip_sublist _ _)), List.mem_iff_getElem?]
    simp only [List.getElem?_zip_eq_some, List.getElem?_map, Option.map_eq_some_iff, ← exists_and_right, and_assoc]
  rw [Call.passed?, passes_iff]
  cases hnamed : Call.valueOf? call.named name with
  | some other => simp
  | none => simpa using hzip

end BindingAux

end RunPicker
