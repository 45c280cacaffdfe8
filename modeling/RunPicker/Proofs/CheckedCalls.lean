import RunPicker.Config.Key
import RunPicker.Proofs.Binding
import RunPicker.Proofs.Texts

/-!
# Which calls are let through

The arguments of a checked call are matched with the parameters twice: by name for the checks, and place by place when
the function gets its values. `validated_calls` says that the two agree for all calls, so that what is checked is what
the function gets, and that it makes no difference which arguments are passed by position. The sections of a key are
taken by such a call (`checkedCall_keyed`).
-/

namespace RunPicker

variable {ν α : Type}

/-- The listed parameters that the call passes, with their values, in the listed order. -/
def Call.listed (call : Call ν) (callee : Callee ν) (names : List String) : List (String × ν) :=
  names.filterMap fun name => (call.passed? callee name).map fun value => (name, value)

/-- The predicate declines the value of a parameter: it refuses the value, or it fails itself. A value that is refused
is reported by its text, and where it has none, the writing of the text is what fails. -/
inductive Declines [Textual ν] (accepts : ν → Except Failure Bool) (name : String) (value : ν) : Failure → Prop where
  | refused {text : String} (refuses : accepts value = .ok false) (written : Textual.toText value = .ok text) :
      Declines accepts name value (.invalidParameter name text "")
  | unwritten {failure : Failure} (refuses : accepts value = .ok false) (fails : Textual.toText value = .error failure) :
      Declines accepts name value failure
  | failed {failure : Failure} (fails : accepts value = .error failure) : Declines accepts name value failure

namespace Callee

/-- The second call passes by name what the first one passes last by position, and all else alike. -/
inductive Moved (callee : Callee ν) : Call ν → Call ν → Prop where
  | intro {positional : List ν} {before after : List (String × ν)} {place : Nat} {formal : Formal ν} {value : ν}
      (seat : callee.positional[place]? = some formal) (last : positional.length = callee.positionOnly.length + place)
      (unnamed : formal.name ∉ (before ++ after).map Prod.fst) :
      Moved callee ⟨positional ++ [value], before ++ after⟩ ⟨positional, before ++ (formal.name, value) :: after⟩

/-- The calls fit the function alike, and pass the same values for the same parameters. -/
structure SameBinding (callee : Callee ν) (call other : Call ν) : Prop where
  regular : callee.Regular call ↔ callee.Regular other
  passes : ∀ name value, callee.Passes call name value ↔ callee.Passes other name value

end Callee

namespace CheckedCallsAux

open BindingAux

/-! ## The checks -/

section

variable {callee : Callee ν} {accepts : ν → Except Failure Bool} {call : Call ν}

/-- A name for which nothing is passed is not listed. -/
theorem listed_cons_of_none {name : String} (h : call.passed? callee name = none) (rest : List String) :
    call.listed callee (name :: rest) = call.listed callee rest := by
  rw [Call.listed, List.filterMap_cons, h]
  rfl

/-- A name is listed with the value that is passed for it. -/
theorem listed_cons_of_some {name : String} {value : ν} (h : call.passed? callee name = some value)
    (rest : List String) : call.listed callee (name :: rest) = (name, value) :: call.listed callee rest := by
  rw [Call.listed, List.filterMap_cons, h]
  rfl

/-- The values that are passed for the names are listed, and no others. -/
theorem mem_listed_iff (hd : callee.Distinct) {names : List String} {name : String} {value : ν} :
    (name, value) ∈ call.listed callee names ↔ name ∈ names ∧ callee.Passes call name value := by
  simp only [Call.listed, List.mem_filterMap, Option.map_eq_some_iff, Prod.mk.injEq, ← passed?_eq_some_iff hd]
  constructor
  · rintro ⟨other, hother, value', hvalue, rfl, rfl⟩
    exact ⟨hother, hvalue⟩
  · rintro ⟨hname, hvalue⟩
    exact ⟨name, hname, value, hvalue, rfl, rfl⟩

variable [Textual ν]

/-- If every value is accepted, all are asked about and the check succeeds. -/
theorem check_of_accepted {names : List String}
    (h : ∀ argument ∈ call.listed callee names, accepts argument.2 = .ok true) :
    call.check callee accepts names = ((call.listed callee names).map Prod.snd, .ok ()) := by
  induction names with
  | nil => rfl
  | cons name rest ih =>
    cases hpassed : call.passed? callee name with
    | none =>
      rw [listed_cons_of_none hpassed] at h ⊢
      simp only [Call.check, hpassed, ih h]
    | some value =>
      rw [listed_cons_of_some hpassed, List.forall_mem_cons] at h
      simp only [Call.check, hpassed, listed_cons_of_some hpassed, h.1, ih h.2, List.map_cons]

/-- The checks end with the first value that is declined. -/
theorem check_of_declined {names : List String} {front back : List (String × ν)} {name : String} {value : ν}
    {failure : Failure} (hlisted : call.listed callee names = front ++ (name, value) :: back)
    (hfront : ∀ argument ∈ front, accepts argument.2 = .ok true) (hdeclines : Declines accepts name value failure) :
    call.check callee accepts names = (front.map Prod.snd ++ [value], .error failure) := by
  induction names generalizing front with
  | nil => exact absurd hlisted.symm (by simp [Call.listed])
  | cons first rest ih =>
    cases hpassed : call.passed? callee first with
    | none =>
      rw [listed_cons_of_none hpassed] at hlisted
      simp only [Call.check, hpassed, ih hlisted hfront]
    | some other =>
      rw [listed_cons_of_some hpassed] at hlisted
      cases front with
      | nil =>
        obtain ⟨hfirst, -⟩ := List.cons.inj hlisted
        obtain ⟨rfl, rfl⟩ := Prod.mk.inj hfirst
        cases hdeclines with
        | refused hrefuses hwritten =>
          simp only [Call.check, hpassed, hrefuses, hwritten, Failure.quoting, List.map_nil, List.nil_append]
        | unwritten hrefuses hfails =>
          simp only [Call.check, hpassed, hrefuses, hfails, Failure.quoting, List.map_nil, List.nil_append]
        | failed hfails => simp only [Call.check, hpassed, hfails, List.map_nil, List.nil_append]
      | cons head front =>
        obtain ⟨rfl, hrest⟩ := List.cons.inj hlisted
        obtain ⟨hhead, hfront⟩ := List.forall_mem_cons.mp hfront
        simp only [Call.check, hpassed, hhead, ih hrest hfront, List.map_cons, List.cons_append]

/-- If not all values are accepted, then there is a first one that is declined. -/
theorem exists_declined {arguments : List (String × ν)}
    (h : ¬∀ argument ∈ arguments, accepts argument.2 = .ok true) :
    ∃ front name value back failure, arguments = front ++ (name, value) :: back ∧
      (∀ argument ∈ front, accepts argument.2 = .ok true) ∧ Declines accepts name value failure := by
  induction arguments with
  | nil => exact absurd (List.forall_mem_nil _) h
  | cons argument rest ih =>
    obtain ⟨name, value⟩ := argument
    rcases hvalue : accepts value with failure | - | -
    · exact ⟨[], name, value, rest, failure, rfl, List.forall_mem_nil _, .failed hvalue⟩
    · rcases htext : Textual.toText value with failure | text
      · exact ⟨[], name, value, rest, failure, rfl, List.forall_mem_nil _, .unwritten hvalue htext⟩
      · exact ⟨[], name, value, rest, _, rfl, List.forall_mem_nil _, .refused hvalue htext⟩
    · have hrest : ¬∀ argument ∈ rest, accepts argument.2 = .ok true :=
        fun hrest => h (List.forall_mem_cons.mpr ⟨hvalue, hrest⟩)
      obtain ⟨front, other, value', back, failure, rfl, hfront, hdeclines⟩ := ih hrest
      exact ⟨(name, value) :: front, other, value', back, failure, rfl,
        List.forall_mem_cons.mpr ⟨hvalue, hfront⟩, hdeclines⟩

/-- The check depends on nothing but the values that are passed. -/
theorem check_congr {other : Call ν} (h : ∀ name, call.passed? callee name = other.passed? callee name)
    (names : List String) : call.check callee accepts names = other.check callee accepts names := by
  induction names with
  | nil => rfl
  | cons name rest ih => simp only [Call.check, h, ih]

end

/-! ## Arguments that are moved -/

section

variable {callee : Callee ν} {call other : Call ν}

/-- To be bound alike is an equivalence of calls. -/
theorem sameBinding_equivalence : Equivalence callee.SameBinding where
  refl _ := ⟨Iff.rfl, fun _ _ => Iff.rfl⟩
  symm h := ⟨h.regular.symm, fun name value => (h.passes name value).symm⟩
  trans h h' := ⟨h.regular.trans h'.regular, fun name value => (h.passes name value).trans (h'.passes name value)⟩

/-- Wherever an argument stands, its name has its value, if no other has the name. -/
theorem valueOf?_insert {before after : List (String × ν)} {first : String}
    (h : first ∉ (before ++ after).map Prod.fst) (value : ν) (name : String) :
    Call.valueOf? (before ++ (first, value) :: after) name =
      if first = name then some value else Call.valueOf? (before ++ after) name := by
  rw [valueOf?_append, valueOf?_cons, valueOf?_append]
  by_cases hname : first = name
  · subst hname
    rw [List.map_append, List.mem_append, not_or] at h
    simp [valueOf?_eq_none_iff.mpr h.2]
  · simp [hname]

/-- A parameter that can be passed in both ways is behind those that are passed by position only. -/
theorem seated_of_positional {place seat : Nat} {formal : Formal ν} (h : callee.positional[place]? = some formal)
    (hseat : seat = callee.positionOnly.length + place) : callee.seated[seat]? = some formal := by
  rw [Callee.seated, hseat, List.getElem?_append_right (Nat.le_add_right _ _), Nat.add_sub_cancel_left, h]

/-- The argument that is moved is passed for the same parameter, and the others are passed as they were. -/
theorem passes_of_moved (hd : callee.Distinct) (h : callee.Moved call other) (name : String) (value : ν) :
    callee.Passes call name value ↔ callee.Passes other name value := by
  obtain @⟨positional, before, after, place, formal, moved, hseat, hlast, hunnamed⟩ := h
  have hseated := seated_of_positional hseat hlast
  rw [passes_iff, passes_iff, valueOf?_insert hunnamed]
  by_cases hname : formal.name = name
  · subst hname
    rw [if_pos rfl, valueOf?_eq_none_iff.mpr hunnamed]
    constructor
    · rintro (hnamed | ⟨-, other, formal', hother, hname, hargument⟩)
      · exact nomatch hnamed
      · obtain rfl := place_unique hd (formals_of_seated hother) (formals_of_seated hseated) hname
        exact .inl (List.getElem?_concat_length.symm.trans hargument)
    · rintro (hnamed | ⟨hnone, -⟩)
      · exact .inr ⟨rfl, _, formal, hseated, rfl, List.getElem?_concat_length.trans hnamed⟩
      · exact nomatch hnone
  · have hargument {other : Nat} {formal' : Formal ν} (hother : callee.seated[other]? = some formal')
        (hname' : formal'.name = name) : (positional ++ [moved])[other]? = positional[other]? := by
      have hne : other ≠ positional.length := fun heq => by
        subst heq
        obtain rfl := Option.some.inj (hseated.symm.trans hother)
        exact hname hname'
      rcases Nat.lt_or_gt_of_ne hne with hlt | hgt
      · exact List.getElem?_append_left hlt
      · have hbeyond : (positional ++ [moved]).length ≤ other := by
          rw [List.length_append]
          exact hgt
        rw [List.getElem?_eq_none hbeyond, List.getElem?_eq_none (Nat.le_of_lt hgt)]
    rw [if_neg hname]
    refine or_congr_right (and_congr_right fun _ => exists_congr fun other => exists_congr fun formal' =>
      and_congr_right fun hother => and_congr_right fun hname' => ?_)
    rw [hargument hother hname']

/-- The argument that is moved has its parameter for itself, and the others keep theirs. -/
theorem regular_of_moved (h : callee.Moved call other) : callee.Regular call ↔ callee.Regular other := by
  obtain @⟨positional, before, after, place, formal, moved, hseat, hlast, hunnamed⟩ := h
  have hseated := seated_of_positional hseat hlast
  have hformal := formals_of_seated hseated
  have hlt : positional.length < callee.seated.length := (List.getElem?_eq_some_iff.mp hseated).1
  have hmem (name : String) : name ∈ (before ++ (formal.name, moved) :: after).map Prod.fst ↔
      name = formal.name ∨ name ∈ (before ++ after).map Prod.fst := by
    simp only [List.map_append, List.map_cons, List.mem_append, List.mem_cons]
    exact or_left_comm
  have hdistinct : ((before ++ (formal.name, moved) :: after).map Prod.fst).Nodup ↔
      ((before ++ after).map Prod.fst).Nodup := by
    rw [List.map_append, List.map_cons, List.nodup_middle, ← List.map_append, List.nodup_cons]
    exact and_iff_right hunnamed
  constructor
  · intro h
    refine ⟨Nat.le_of_lt hlt, hdistinct.mpr h.distinct, fun name hname => ?_⟩
    rcases (hmem name).mp hname with rfl | hname
    · exact ⟨positional.length, formal, hformal, rfl, hlast ▸ Nat.le_add_right _ _, Nat.le_refl _⟩
    · obtain ⟨other, formal', hother, hsame, honly, hfree⟩ := h.free name hname
      rw [List.length_append] at hfree
      exact ⟨other, formal', hother, hsame, honly, Nat.le_trans (Nat.le_add_right _ _) hfree⟩
  · intro h
    refine ⟨by rwa [List.length_append], hdistinct.mp h.distinct, fun name hname => ?_⟩
    obtain ⟨other, formal', hother, hsame, honly, hfree⟩ := h.free name ((hmem name).mpr (.inr hname))
    have hne : positional.length ≠ other := fun heq => by
      subst heq
      obtain rfl := Option.some.inj (hformal.symm.trans hother)
      exact hunnamed (hsame ▸ hname)
    refine ⟨other, formal', hother, hsame, honly, ?_⟩
    rw [List.length_append]
    exact Nat.lt_of_le_of_ne hfree hne

/-- An argument that is moved is bound as before. -/
theorem sameBinding_of_moved (hd : callee.Distinct) (h : callee.Moved call other) : callee.SameBinding call other :=
  ⟨regular_of_moved h, passes_of_moved hd h⟩

/-- Arguments that are moved one after the other are bound as before. -/
theorem sameBinding_of_eqvGen (hd : callee.Distinct) (h : Relation.EqvGen callee.Moved call other) :
    callee.SameBinding call other :=
  sameBinding_equivalence.eqvGen_iff.mp (Relation.EqvGen.mono (fun _ _ => sameBinding_of_moved hd) _ _ h)

end

end CheckedCallsAux

open BindingAux CheckedCallsAux

/-- A function is called whose parameters of some names are checked first, by a predicate with further arguments.
1. Checked are the values that the call passes for the parameters of these names, by name or by position. A parameter
that is left to its default is not among them.
2. If the predicate accepts all these values, it is asked once for each of them, in the order of the names. Then the
function runs with the values that the call gives it, unless the call does not fit the function.
3. Otherwise the first value that is declined ends the call, and the function does not run. A value that is refused is
reported as invalid, with the name of its parameter and its text, unless it has no text that can be written. A failure of
the predicate is passed on. The predicate is asked for the values up to this one and for no others.
4. The function gets values if each argument has a parameter of its own: for each parameter the value that is passed for
it, which is the one that was checked, or else its default. All other calls fail for the types, such as those that pass
too many arguments, or two for one parameter.
5. Arguments may be moved between positions and names, one after the other: the binding stays the same.
6. Calls with the same binding are checked alike and end alike. -/
theorem validated_calls [Textual ν] {callee : Callee ν} (hnames : callee.Distinct)
    (predicate : Call ν → Except Failure Bool) (further : Call ν) (names : List String)
    (body : List ν → Except Failure α) (call : Call ν) :
    let accepts := askedWith predicate further
    let listed := call.listed callee names
    let answer := checkedCall callee accepts names body
    (∀ name value, (name, value) ∈ listed ↔ name ∈ names ∧ callee.Passes call name value) ∧
    ((∀ argument ∈ listed, accepts argument.2 = .ok true) →
      answer call = (listed.map Prod.snd, callee.bind call >>= body)) ∧
    ((¬∀ argument ∈ listed, accepts argument.2 = .ok true) →
      ∃ front name value back failure, listed = front ++ (name, value) :: back ∧
        (∀ argument ∈ front, accepts argument.2 = .ok true) ∧ Declines accepts name value failure ∧
        answer call = (front.map Prod.snd ++ [value], .error failure)) ∧
    ((∀ values, callee.bind call = .ok values ↔
        callee.Regular call ∧ List.Forall₂ (callee.Takes call) callee.formals values) ∧
      ∀ failure, callee.bind call = .error failure → failure = .wrongType) ∧
    (∀ other, Relation.EqvGen callee.Moved call other → callee.SameBinding call other) ∧
    ∀ other, callee.SameBinding call other → answer other = answer call := by
  intro accepts listed answer
  refine ⟨fun name value => mem_listed_iff hnames, fun haccepted => ?_, fun hnot => ?_,
    ⟨fun values => bind_eq_ok_iff hnames, fun failure => bind_eq_error⟩,
    fun other => sameBinding_of_eqvGen hnames, fun other hsame => ?_⟩
  · simp only [answer, checkedCall, check_of_accepted haccepted]
    rfl
  · obtain ⟨front, name, value, back, failure, hlisted, hfront, hdeclines⟩ := exists_declined hnot
    refine ⟨front, name, value, back, failure, hlisted, hfront, hdeclines, ?_⟩
    simp only [answer, checkedCall, check_of_declined hlisted hfront hdeclines]
    rfl
  · have hpassed (name : String) : other.passed? callee name = call.passed? callee name :=
      Option.ext fun value => by
        rw [passed?_eq_some_iff hnames, passed?_eq_some_iff hnames, hsame.passes]
    simp only [answer, checkedCall, check_congr hpassed,
      bind_congr hnames hsame.regular.symm fun name value => (hsame.passes name value).symm]

/-- A count that is too small, after a value that is accepted: passed by position, and moved to its name. A count that
is left to its default is not checked. -/
theorem validated_calls_of_moved :
    let callee : Callee := ⟨⟨[⟨"count", some (.integer 1)⟩], [⟨"extra", some (.integer 0)⟩]⟩, [⟨"text", none⟩]⟩
    let predicate : Call → Except Failure Bool := fun call => match call.positional, call.named with
      | [value, low], [("high", high)] => isBetween low high value
      | _, _ => .error .wrongType
    let further : Call := ⟨[.integer 1], [("high", .integer 10)]⟩
    let answer := checkedCall callee (askedWith predicate further) ["extra", "count"] (fun values => .ok values)
    let call : Call := ⟨[.text "a", .integer 0], [("extra", .integer 5)]⟩
    let other : Call := ⟨[.text "a"], [("extra", .integer 5), ("count", .integer 0)]⟩
    callee.Distinct ∧ callee.Moved call other ∧ answer other = answer call ∧
      answer call = ([.integer 5, .integer 0], .error (.invalidParameter "count" "0" "")) ∧
      answer ⟨[.text "a"], [("extra", .integer 5)]⟩ = ([.integer 5], .ok [.text "a", .integer 1, .integer 5]) := by
  intro callee predicate further answer call other
  have hnames : callee.Distinct := by decide
  have hmoved : callee.Moved call other :=
    @Callee.Moved.intro _ callee [.text "a"] [("extra", .integer 5)] [] 0 ⟨"count", some (.integer 1)⟩ (.integer 0)
      rfl rfl (by decide)
  have hzero : Textual.toText (Value.integer 0) = .ok "0" := by
    rw [show Textual.toText (Value.integer 0) = _ from Value.toText_of_hasText (by decide +kernel)]
    cbv
  have hrefused : answer call = ([.integer 5, .integer 0],
      .error (.quoting (Textual.toText (Value.integer 0)) (.invalidParameter "count" · ""))) := rfl
  rw [hzero] at hrefused
  obtain ⟨-, -, -, -, hsame, halike⟩ :=
    validated_calls hnames predicate further ["extra", "count"] (fun values => Except.ok values) call
  exact ⟨hnames, hmoved, halike other (hsame other (.rel _ _ hmoved)), hrefused, rfl⟩

/-! ## Keys -/

/-- The parameter that names a value of a configuration. -/
def keyed : Callee :=
  ⟨⟨[⟨"key", none⟩], []⟩, []⟩

/-- The sections of a text, whether it is a key or not. -/
def sectionsOfText : List Value → Except Failure (List String)
  | [.text key] => .ok (Text.splitAll '.' key)
  | _ => .error .wrongType

/-- The sections of a key are those of a text in a call that is checked for keys. -/
theorem checkedCall_keyed (key : Value) {call : Call} (h : call = ⟨[key], []⟩ ∨ call = ⟨[], [("key", key)]⟩) :
    checkedCall keyed (fun value => isValidKey <$> keyText value) ["key"] sectionsOfText call =
      ([key], keyText key >>= sectionsOfKey) := by
  have hbind : call.passed? keyed "key" = some key ∧ keyed.bind call = .ok [key] := by
    rcases h with rfl | rfl <;> exact ⟨rfl, rfl⟩
  cases key with
  | text key =>
    have htext : Textual.toText (Value.text key) = .ok key := Value.toText_of_hasText rfl
    cases hkey : isValidKey key <;>
      simp [checkedCall, Call.check, hbind, keyText, sectionsOfKey, sectionsOfText, hkey, htext, Failure.quoting, bind,
        Except.bind]
  | _ => simp [checkedCall, Call.check, hbind, keyText, bind, Except.bind]

end RunPicker
