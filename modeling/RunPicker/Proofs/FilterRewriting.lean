import Mathlib.Logic.Relation
import RunPicker.Proofs.Journal
import RunPicker.Proofs.Results
import RunPicker.Spec

/-!
# Rewriting of filters

A filter can be rewritten step by step: two negations cancel, a negation goes to the parts of a connective, a connective
takes in the parts of the same connective inside it, and a connective of one part is that part. Each step keeps what is
asked and answered, whatever the conditions are, since the filter that it leaves is the same operation
(`holds_of_step`). Rewriting ends in a normal form, which is the same for every order of the steps
(`eq_normal_of_rewrites`). The filter that a list of configurations makes together is, up to such steps, the conjunction
of all of them (`rewritten_filters`).
-/

namespace RunPicker

variable {σ α ε : Type}

namespace RunFilter

/-- The connectives that join filters. -/
inductive Connective where
  | all
  | any
deriving DecidableEq, Repr

namespace Connective

/-- The filter of some parts that are joined. -/
def join : Connective → List (RunFilter α) → RunFilter α
  | all => RunFilter.all
  | any => RunFilter.any

/-- The connective that stands for this one when a negation goes to its parts. -/
def dual : Connective → Connective
  | all => any
  | any => all

/-- The dual connective under a negation, and otherwise the connective itself. -/
def under (negated : Bool) (connective : Connective) : Connective :=
  if negated then connective.dual else connective

/-- The answer of a part after which no other part is asked. -/
def decisive : Connective → Bool
  | all => false
  | any => true

/-- What is asked after the answer of a part: nothing if the answer is decisive, and otherwise the rest. -/
def proceed {m : Type → Type} [Monad m] (connective : Connective) (rest : m Bool) (answer : Bool) : m Bool :=
  if answer = connective.decisive then return answer else rest

/-- The parts of a filter that the connective joins. Any other filter is the only part of itself. -/
def operands : Connective → RunFilter α → List (RunFilter α)
  | all, .all parts => parts
  | any, .any parts => parts
  | _, part => [part]

/-- The parts of all of the filters. -/
def flattened (connective : Connective) (parts : List (RunFilter α)) : List (RunFilter α) :=
  parts.flatMap connective.operands

/-- The filter of some parts that are joined, without the same connective inside it and without a connective of one
part. -/
def joined (connective : Connective) (parts : List (RunFilter α)) : RunFilter α :=
  match connective.flattened parts with
  | [part] => part
  | parts => connective.join parts

end Connective

/-- One step of rewriting, anywhere in a filter. -/
inductive Step : RunFilter α → RunFilter α → Prop where
  | notNot (part : RunFilter α) : Step (.not (.not part)) part
  | notJoin (connective : Connective) (parts : List (RunFilter α)) :
      Step (.not (connective.join parts)) (connective.dual.join (parts.map RunFilter.not))
  | flatten (connective : Connective) (front inner back : List (RunFilter α)) :
      Step (connective.join (front ++ connective.join inner :: back)) (connective.join (front ++ inner ++ back))
  | single (connective : Connective) (part : RunFilter α) : Step (connective.join [part]) part
  | underNot {part part' : RunFilter α} (step : Step part part') : Step (.not part) (.not part')
  | within (connective : Connective) (front : List (RunFilter α)) {part part' : RunFilter α} (step : Step part part')
      (back : List (RunFilter α)) :
      Step (connective.join (front ++ part :: back)) (connective.join (front ++ part' :: back))

/-- Rewriting in any number of steps. -/
abbrev Rewrites : RunFilter α → RunFilter α → Prop :=
  Relation.ReflTransGen Step

/-- In a normal form only conditions are negated, a connective does not stand directly inside itself, and none has
exactly one part. -/
inductive IsNormal : RunFilter α → Prop where
  | leaf (condition : α) : IsNormal (.leaf condition)
  | notLeaf (condition : α) : IsNormal (.not (.leaf condition))
  | join (connective : Connective) {parts : List (RunFilter α)} (several : parts.length ≠ 1)
      (flat : ∀ part ∈ parts, ∀ inner, part ≠ connective.join inner) (normal : ∀ part ∈ parts, IsNormal part) :
      IsNormal (connective.join parts)

/-- The filter, or its negation. -/
def signed (negated : Bool) (filter : RunFilter α) : RunFilter α :=
  if negated then .not filter else filter

mutual

/-- The normal form of a filter, or of its negation. -/
def normalUnder (negated : Bool) : RunFilter α → RunFilter α
  | .leaf condition => signed negated (.leaf condition)
  | .all parts => (Connective.all.under negated).joined (normalsUnder negated parts)
  | .any parts => (Connective.any.under negated).joined (normalsUnder negated parts)
  | .not part => normalUnder (!negated) part

/-- The normal forms of filters, or of their negations. -/
def normalsUnder (negated : Bool) : List (RunFilter α) → List (RunFilter α)
  | [] => []
  | part :: rest => normalUnder negated part :: normalsUnder negated rest

end

/-- The normal form of a filter. -/
def normal (filter : RunFilter α) : RunFilter α :=
  filter.normalUnder false

/-- The question to a filter in which every answer of a condition is entered in a journal. -/
def consulting (judges : α → Judge σ) (filter : RunFilter α) : Judge (Journal (α × Except Failure Bool) σ) :=
  filter.judge fun condition run context =>
    (judges condition run context).journaled fun _ answer _ => (condition, answer)

/-- The conditions that are asked about a run, in their order and as often as they are, with their answers. -/
def consultations (judges : α → Judge σ) (filter : RunFilter α) (run : Run) (context : Context) (desk : Desk σ) :
    List (α × Except Failure Bool) :=
  ((filter.consulting judges run context).on (desk.withJournal [])).2.host.entries

end RunFilter

namespace FilterRewritingAux

open RunFilter ResultsAux

/-! ## Answers -/

section

variable {m : Type → Type} [Monad m]

/-- A connective over nothing answers at once: a conjunction with true, an alternative with false. -/
theorem holds_join_nil (judge : α → m Bool) (connective : Connective) :
    (connective.join []).holds judge = pure (!connective.decisive) := by
  cases connective with
  | all =>
    rw [Connective.join, holds, allHold]
    rfl
  | any =>
    rw [Connective.join, holds, anyHolds]
    rfl

/-- Both connectives ask the first part, and then proceed by its answer. -/
theorem holds_join_cons (judge : α → m Bool) (connective : Connective) (part : RunFilter α)
    (rest : List (RunFilter α)) : (connective.join (part :: rest)).holds judge =
      part.holds judge >>= connective.proceed ((connective.join rest).holds judge) := by
  cases connective with
  | all =>
    rw [Connective.join, holds, allHold, holds]
    congr 1
    funext answer
    cases answer <;> rfl
  | any =>
    rw [Connective.join, holds, anyHolds, holds]
    congr 1
    funext answer
    cases answer <;> rfl

variable [LawfulMonad m] (judge : α → m Bool)

/-- A negation asks what its part asks and turns the answer round. -/
theorem holds_not (part : RunFilter α) : (RunFilter.not part).holds judge = (! ·) <$> part.holds judge := by
  rw [holds, map_eq_pure_bind]

/-- Going on after the rest and going on before it are the same: the decisive answer ends both. -/
theorem proceed_bind_proceed (connective : Connective) (rest last : m Bool) (answer : Bool) :
    connective.proceed rest answer >>= connective.proceed last =
      connective.proceed (rest >>= connective.proceed last) answer := by
  unfold Connective.proceed
  split
  · rename_i hdecisive
    rw [pure_bind, if_pos hdecisive]
  · rfl

/-- The parts behind others are asked if the others are not decisive. -/
theorem holds_join_append (connective : Connective) (front back : List (RunFilter α)) :
    (connective.join (front ++ back)).holds judge =
      (connective.join front).holds judge >>= connective.proceed ((connective.join back).holds judge) := by
  induction front with
  | nil => cases connective <;> simp [holds_join_nil, Connective.proceed, Connective.decisive]
  | cons part front ih =>
    rw [List.cons_append, holds_join_cons, holds_join_cons, bind_assoc, ih]
    simp only [proceed_bind_proceed]

/-- A negation goes to the parts of a connective: each negated part decides what the part itself decided. -/
theorem holds_dual_join (connective : Connective) (parts : List (RunFilter α)) :
    (connective.dual.join (parts.map RunFilter.not)).holds judge =
      (RunFilter.not (connective.join parts)).holds judge := by
  induction parts with
  | nil => cases connective <;> simp [holds_not, holds_join_nil, Connective.dual, Connective.decisive]
  | cons part rest ih =>
    rw [List.map_cons, holds_join_cons, ih]
    simp only [holds_not, holds_join_cons, map_bind, bind_map_left]
    refine bind_congr fun answer => ?_
    cases connective <;> cases answer <;> simp [Connective.proceed, Connective.dual, Connective.decisive]

/-- A step of rewriting keeps the question: in whatever way the conditions answer or fail, the same is asked. -/
theorem holds_of_step {filter filter' : RunFilter α} (h : Step filter filter') :
    filter'.holds judge = filter.holds judge := by
  induction h with
  | notNot part => simp [holds_not]
  | notJoin connective parts => exact holds_dual_join judge connective parts
  | flatten connective front inner back =>
    rw [List.append_assoc, holds_join_append, holds_join_append, holds_join_append, holds_join_cons]
  | single connective part =>
    rw [holds_join_cons, holds_join_nil]
    refine (bind_pure _).symm.trans (bind_congr fun answer => ?_)
    cases connective <;> cases answer <;> rfl
  | underNot _ ih => rw [holds_not, holds_not, ih]
  | within connective front _ back ih =>
    rw [holds_join_append, holds_join_append, holds_join_cons, holds_join_cons, ih]

/-- Rewriting does not change what a filter asks and answers, in any monad whose laws hold. -/
theorem holds_of_rewrites {filter filter' : RunFilter α} (h : Rewrites filter filter') :
    filter'.holds judge = filter.holds judge := by
  induction h with
  | refl => rfl
  | tail _ step ih => rw [holds_of_step judge step, ih]

end

/-! ## Joined parts -/

/-- A tree is joined by one connective and from one list of parts. -/
theorem join_inj {connective other : Connective} {parts parts' : List (RunFilter α)}
    (h : connective.join parts = other.join parts') : connective = other ∧ parts = parts' := by
  cases connective <;> cases other <;> cases h <;> exact ⟨rfl, rfl⟩

/-- A joined filter is normal if it has not exactly one part, and all parts are normal and of another connective. -/
theorem isNormal_join_iff {connective : Connective} {parts : List (RunFilter α)} :
    (connective.join parts).IsNormal ↔ parts.length ≠ 1 ∧
      ∀ part ∈ parts, part.IsNormal ∧ ∀ inner, part ≠ connective.join inner := by
  constructor
  · intro h
    generalize hjoin : connective.join parts = filter at h
    cases h with
    | leaf | notLeaf => cases connective <;> cases hjoin
    | join other several flat normal =>
      obtain ⟨rfl, rfl⟩ := join_inj hjoin
      exact ⟨several, fun part hpart => ⟨normal part hpart, flat part hpart⟩⟩
  · rintro ⟨several, h⟩
    exact .join connective several (fun part hpart => (h part hpart).2) fun part hpart => (h part hpart).1

/-- A filter is joined by the connective, or it is not and is its own only part. -/
theorem operands_cases (connective : Connective) (part : RunFilter α) :
    (∃ inner, part = connective.join inner ∧ connective.operands part = inner) ∨
      ((∀ inner, part ≠ connective.join inner) ∧ connective.operands part = [part]) := by
  cases connective <;> cases part <;> simp [Connective.join, Connective.operands]

/-- Lists of parts are flattened piece by piece. -/
theorem flattened_append (connective : Connective) (front back : List (RunFilter α)) :
    connective.flattened (front ++ back) = connective.flattened front ++ connective.flattened back :=
  List.flatMap_append

/-- Of one part the flattened list holds the operands. -/
theorem flattened_singleton (connective : Connective) (part : RunFilter α) :
    connective.flattened [part] = connective.operands part :=
  List.flatMap_singleton ..

/-- A part that is not joined by the connective is its own only operand. -/
theorem operands_of_flat {connective : Connective} {part : RunFilter α}
    (h : ∀ inner, part ≠ connective.join inner) : connective.operands part = [part] := by
  rcases operands_cases connective part with ⟨inner, hinner, -⟩ | ⟨-, hone⟩
  · exact absurd hinner (h inner)
  · exact hone

/-- Nothing is flattened if no part is joined by the connective. -/
theorem flattened_of_flat {connective : Connective} {parts : List (RunFilter α)}
    (h : ∀ part ∈ parts, ∀ inner, part ≠ connective.join inner) : connective.flattened parts = parts := by
  induction parts with
  | nil => rfl
  | cons part rest ih =>
    obtain ⟨hpart, hrest⟩ := List.forall_mem_cons.mp h
    rw [Connective.flattened, List.flatMap_cons, operands_of_flat hpart, ← Connective.flattened, ih hrest,
      List.singleton_append]

/-- The parts of normal forms are normal forms, and none of them is joined by the connective. -/
theorem normal_of_mem_flattened {connective : Connective} {parts : List (RunFilter α)}
    (h : ∀ part ∈ parts, part.IsNormal) :
    ∀ operand ∈ connective.flattened parts, operand.IsNormal ∧ ∀ inner, operand ≠ connective.join inner := by
  intro operand hoperand
  obtain ⟨part, hpart, hmem⟩ := List.mem_flatMap.mp hoperand
  have hnormal := h part hpart
  rcases operands_cases connective part with ⟨inner, rfl, hinner⟩ | ⟨hflat, hone⟩
  · rw [hinner] at hmem
    exact (isNormal_join_iff.mp hnormal).2 operand hmem
  · rw [hone, List.mem_singleton] at hmem
    rw [hmem]
    exact ⟨hnormal, hflat⟩

/-- Joining gives the only operand if there is one, and else the connective over all operands. -/
theorem joined_cases (connective : Connective) (parts : List (RunFilter α)) :
    (∃ part, connective.flattened parts = [part] ∧ connective.joined parts = part) ∨
      ((connective.flattened parts).length ≠ 1 ∧
        connective.joined parts = connective.join (connective.flattened parts)) := by
  unfold Connective.joined
  split
  · rename_i part hone
    exact .inl ⟨part, hone, rfl⟩
  · rename_i hseveral
    refine .inr ⟨fun hlength => ?_, rfl⟩
    obtain ⟨part, hone⟩ := List.length_eq_one_iff.mp hlength
    exact hseveral part hone

/-- Joining normal parts gives a normal filter. -/
theorem isNormal_joined {connective : Connective} {parts : List (RunFilter α)} (h : ∀ part ∈ parts, part.IsNormal) :
    (connective.joined parts).IsNormal := by
  have hnormal := @normal_of_mem_flattened _ connective _ h
  rcases joined_cases connective parts with ⟨part, hone, hjoined⟩ | ⟨hseveral, hjoined⟩
  · rw [hjoined]
    exact (hnormal part (hone ▸ List.mem_singleton_self part)).1
  · rw [hjoined]
    exact isNormal_join_iff.mpr ⟨hseveral, hnormal⟩

/-- Parts that were joined before are joined with others as if they were not. -/
theorem operands_joined {connective : Connective} {parts : List (RunFilter α)} (h : ∀ part ∈ parts, part.IsNormal) :
    connective.operands (connective.joined parts) = connective.flattened parts := by
  rcases joined_cases connective parts with ⟨part, hone, hjoined⟩ | ⟨-, hjoined⟩
  · rw [hjoined, hone]
    exact operands_of_flat (normal_of_mem_flattened h part (hone ▸ List.mem_singleton_self part)).2
  · rw [hjoined]
    cases connective <;> rfl

/-- Joining the parts of a normal filter gives this filter again. -/
theorem joined_of_isNormal {connective : Connective} {parts : List (RunFilter α)}
    (h : (connective.join parts).IsNormal) : connective.joined parts = connective.join parts := by
  obtain ⟨several, hparts⟩ := isNormal_join_iff.mp h
  have hflat := flattened_of_flat fun part hpart => (hparts part hpart).2
  rcases joined_cases connective parts with ⟨part, hone, -⟩ | ⟨-, hjoined⟩
  · rw [hflat] at hone
    exact absurd (congrArg List.length hone) several
  · rw [hjoined, hflat]

/-- Joining one normal part leaves the part. -/
theorem joined_singleton {part : RunFilter α} (connective : Connective) (h : part.IsNormal) :
    connective.joined [part] = part := by
  rcases operands_cases connective part with ⟨inner, rfl, hinner⟩ | ⟨-, hone⟩
  · have hflat := flattened_of_flat fun part hpart => ((isNormal_join_iff.mp h).2 part hpart).2
    have hsame : connective.joined [connective.join inner] = connective.joined inner := by
      rw [Connective.joined, Connective.joined, flattened_singleton, hinner, hflat]
    rw [hsame, joined_of_isNormal h]
  · rw [Connective.joined, flattened_singleton, hone]

/-! ## Normal forms -/

/-- The normal form of a connective joins those of its parts, under a negation by the dual connective. -/
theorem normalUnder_join (negated : Bool) (connective : Connective) (parts : List (RunFilter α)) :
    (connective.join parts).normalUnder negated = (connective.under negated).joined (normalsUnder negated parts) := by
  cases connective <;> rw [Connective.join, normalUnder]

/-- The normal forms of a list are those of its items. -/
theorem normalsUnder_eq_map (negated : Bool) (parts : List (RunFilter α)) :
    normalsUnder negated parts = parts.map (normalUnder negated) := by
  induction parts with
  | nil => rw [normalsUnder, List.map_nil]
  | cons part rest ih => rw [normalsUnder, List.map_cons, ih]

mutual

/-- What normalising gives is normal, under a negation as well. -/
theorem isNormal_normalUnder (negated : Bool) : ∀ filter : RunFilter α, (filter.normalUnder negated).IsNormal
  | .leaf condition => by
    rw [normalUnder]
    cases negated with
    | true => exact .notLeaf condition
    | false => exact .leaf condition
  | .all parts => by
    rw [normalUnder]
    exact isNormal_joined (isNormal_normalsUnder negated parts)
  | .any parts => by
    rw [normalUnder]
    exact isNormal_joined (isNormal_normalsUnder negated parts)
  | .not part => by
    rw [normalUnder]
    exact isNormal_normalUnder (!negated) part

/-- What normalising the items of a list gives is normal. -/
theorem isNormal_normalsUnder (negated : Bool) :
    ∀ parts : List (RunFilter α), ∀ part ∈ normalsUnder negated parts, part.IsNormal
  | [] => by simp [normalsUnder]
  | part :: rest => by
    rw [normalsUnder]
    exact List.forall_mem_cons.mpr ⟨isNormal_normalUnder negated part, isNormal_normalsUnder negated rest⟩

end

/-- A normal form is its own normal form. -/
theorem normal_of_isNormal {filter : RunFilter α} (h : filter.IsNormal) : filter.normal = filter := by
  unfold RunFilter.normal
  induction h with
  | leaf condition | notLeaf condition => simp [normalUnder, signed]
  | @join connective parts several flat normal ih =>
    have hparts : normalsUnder false parts = parts := by
      rw [normalsUnder_eq_map]
      exact (List.map_congr_left ih).trans (List.map_id parts)
    rw [normalUnder_join, hparts]
    exact joined_of_isNormal (.join connective several flat normal)

/-- A step of rewriting keeps the normal form. -/
theorem normalUnder_of_step {filter filter' : RunFilter α} (h : Step filter filter') (negated : Bool) :
    filter'.normalUnder negated = filter.normalUnder negated := by
  induction h generalizing negated with
  | notNot part => rw [normalUnder, normalUnder, Bool.not_not]
  | notJoin connective parts =>
    have hparts : normalsUnder negated (parts.map RunFilter.not) = normalsUnder (!negated) parts := by
      rw [normalsUnder_eq_map, normalsUnder_eq_map, List.map_map]
      exact List.map_congr_left fun part _ => by rw [Function.comp_apply, normalUnder]
    have hplace : connective.dual.under negated = connective.under !negated := by
      cases connective <;> cases negated <;> rfl
    rw [normalUnder, normalUnder_join, normalUnder_join, hparts, hplace]
  | flatten connective front inner back =>
    have hinner := @operands_joined _ (connective.under negated) _ (isNormal_normalsUnder negated inner)
    have hparts : (connective.under negated).flattened (normalsUnder negated (front ++ inner ++ back)) =
        (connective.under negated).flattened (normalsUnder negated (front ++ connective.join inner :: back)) := by
      rw [← List.singleton_append (l := back), ← List.append_assoc]
      simp only [normalsUnder_eq_map, List.map_append, List.map_singleton, flattened_append, flattened_singleton,
        normalUnder_join] at hinner ⊢
      rw [hinner]
    rw [normalUnder_join, normalUnder_join, Connective.joined, Connective.joined, hparts]
  | single connective part =>
    rw [normalUnder_join, normalsUnder_eq_map, List.map_singleton,
      joined_singleton _ (isNormal_normalUnder negated part)]
  | underNot _ ih => rw [normalUnder, normalUnder, ih]
  | within connective front _ back ih =>
    simp only [normalUnder_join, normalsUnder_eq_map, List.map_append, List.map_cons, ih]

/-- Filters that are rewritten to each other have one normal form. -/
theorem normal_of_rewrites {filter filter' : RunFilter α} (h : Rewrites filter filter') :
    filter'.normal = filter.normal := by
  induction h with
  | refl => rfl
  | tail _ step ih => exact (normalUnder_of_step step false).trans ih

/-- Whatever order the steps are taken in, they end in the normal form if they end in a normal form. -/
theorem eq_normal_of_rewrites {filter filter' : RunFilter α} (h : Rewrites filter filter')
    (hnormal : filter'.IsNormal) : filter' = filter.normal := by
  rw [← normal_of_rewrites h, normal_of_isNormal hnormal]

/-! ## Rewriting to the normal form -/

/-- A part of a connective can be rewritten where it stands. -/
theorem rewrites_within (connective : Connective) (front : List (RunFilter α)) {part part' : RunFilter α}
    (h : Rewrites part part') (back : List (RunFilter α)) :
    Rewrites (connective.join (front ++ part :: back)) (connective.join (front ++ part' :: back)) :=
  Relation.ReflTransGen.lift (fun part => connective.join (front ++ part :: back))
    (fun _ _ step => Step.within connective front step back) _ _ h

/-- Parts are rewritten to their flattened list, after any parts in front that stay. -/
theorem rewrites_flattened (connective : Connective) (front parts : List (RunFilter α)) :
    Rewrites (connective.join (front ++ parts)) (connective.join (front ++ connective.flattened parts)) := by
  induction parts generalizing front with
  | nil => exact .refl
  | cons part rest ih =>
    rw [Connective.flattened, List.flatMap_cons, ← List.append_assoc]
    refine Relation.ReflTransGen.trans ?_ (ih (front ++ connective.operands part))
    rcases operands_cases connective part with ⟨inner, rfl, hinner⟩ | ⟨-, hone⟩
    · rw [hinner]
      exact .single (.flatten connective front inner rest)
    · rw [hone, List.append_assoc, List.singleton_append]

/-- A connective over parts is rewritten to what joining them gives. -/
theorem rewrites_joined (connective : Connective) (parts : List (RunFilter α)) :
    Rewrites (connective.join parts) (connective.joined parts) := by
  have hflattened := rewrites_flattened connective [] parts
  rw [List.nil_append, List.nil_append] at hflattened
  rcases joined_cases connective parts with ⟨part, hone, hjoined⟩ | ⟨-, hjoined⟩
  · rw [hjoined]
    rw [hone] at hflattened
    exact hflattened.tail (.single connective part)
  · rw [hjoined]
    exact hflattened

/-- A negation is pushed to the parts of a connective, which becomes its dual. -/
theorem rewrites_signed_join (negated : Bool) (connective : Connective) (parts : List (RunFilter α)) :
    Rewrites (signed negated (connective.join parts))
      ((connective.under negated).join (parts.map (signed negated))) := by
  cases negated with
  | true => exact .single (.notJoin connective parts)
  | false =>
    have hsame : parts.map (signed false) = parts := List.map_id parts
    rw [hsame]
    exact .refl

mutual

/-- Every filter, negated or not, is rewritten to its normal form. -/
theorem rewrites_normalUnder (negated : Bool) :
    ∀ filter : RunFilter α, Rewrites (signed negated filter) (filter.normalUnder negated)
  | .leaf condition => by
    rw [normalUnder]
  | .all parts => by
    rw [normalUnder]
    exact ((rewrites_signed_join negated .all parts).trans (rewrites_normalsUnder negated _ [] parts)).trans
      (rewrites_joined _ _)
  | .any parts => by
    rw [normalUnder]
    exact ((rewrites_signed_join negated .any parts).trans (rewrites_normalsUnder negated _ [] parts)).trans
      (rewrites_joined _ _)
  | .not part => by
    rw [normalUnder]
    refine Relation.ReflTransGen.trans ?_ (rewrites_normalUnder (!negated) part)
    cases negated with
    | true => exact .single (.notNot part)
    | false => exact .refl

/-- The parts of a connective are rewritten one after the other. -/
theorem rewrites_normalsUnder (negated : Bool) (connective : Connective) (front : List (RunFilter α)) :
    ∀ parts : List (RunFilter α), Rewrites (connective.join (front ++ parts.map (signed negated)))
      (connective.join (front ++ normalsUnder negated parts))
  | [] => by
    rw [normalsUnder]
    exact .refl
  | part :: rest => by
    have hfirst := rewrites_within connective front (rewrites_normalUnder negated part) (rest.map (signed negated))
    have hrest := rewrites_normalsUnder negated connective (front ++ [part.normalUnder negated]) rest
    rw [List.append_assoc, List.append_assoc, List.singleton_append, List.singleton_append] at hrest
    rw [normalsUnder, List.map_cons]
    exact hfirst.trans hrest

end

/-! ## Consultations -/

section

variable {beside : Work (Journal ε σ) α} {work : Work σ α}

/-- The operation beside a journal does what the other does, and makes its entries behind those that are there. -/
def Enters (beside : Work (Journal ε σ) α) (work : Work σ α) : Prop :=
  ∀ desk : Desk σ, ∃ entries : List ε, ∀ done, beside.on (desk.withJournal done) =
    ((work.on desk).1, (work.on desk).2.withJournal (done ++ entries))

/-- Returning a value enters nothing. -/
theorem enters_pure (value : α) : Enters (pure value : Work (Journal ε σ) α) (pure value) :=
  fun desk => ⟨[], fun done => by rw [List.append_nil]; rfl⟩

/-- An operation of which an entry is made does what it does without. -/
theorem enters_journaled (entry : Desk σ → Except Failure α → Desk σ → ε) (work : Work σ α) :
    Enters (work.journaled entry) work :=
  fun desk => ⟨_, fun done => Work.on_journaled entry work desk done⟩

/-- Entries are made one after the other. -/
theorem Enters.bind {β : Type} (h : Enters beside work) {next' : α → Work (Journal ε σ) β} {next : α → Work σ β}
    (hnext : ∀ value, Enters (next' value) (next value)) : Enters (beside >>= next') (work >>= next) := by
  intro desk
  obtain ⟨entries, hentries⟩ := h desk
  cases hwork : work.on desk with
  | mk result after =>
    rw [hwork] at hentries
    cases result with
    | error failure => exact ⟨entries, fun done => by rw [Work.on_bind, Work.on_bind, hentries, hwork]⟩
    | ok value =>
      obtain ⟨others, hothers⟩ := hnext value after
      refine ⟨entries ++ others, fun done => ?_⟩
      rw [Work.on_bind, Work.on_bind, hentries, hwork, ← List.append_assoc]
      exact hothers _

end

/-- The answers of a filter are entered if those of its conditions are. -/
theorem enters_holds {judge' : α → Work (Journal ε σ) Bool} {judge : α → Work σ Bool}
    (h : ∀ condition, Enters (judge' condition) (judge condition)) (filter : RunFilter α) :
    Enters (filter.holds judge') (filter.holds judge) :=
  holds_related ⟨enters_pure, fun hwork hnext => hwork.bind hnext⟩ h filter

/-- A filter that is asked beside a journal answers as it does without, and its consultations are entered. -/
theorem consulting_on (judges : α → Judge σ) (filter : RunFilter α) (run : Run) (context : Context) (desk : Desk σ)
    (done : List (α × Except Failure Bool)) :
    (filter.consulting judges run context).on (desk.withJournal done) =
      (((filter.judge judges run context).on desk).1, ((filter.judge judges run context).on desk).2.withJournal
        (done ++ filter.consultations judges run context desk)) := by
  obtain ⟨entries, hentries⟩ := enters_holds (fun condition => enters_journaled
    (fun _ answer _ => (condition, answer)) (judges condition run context)) filter desk
  have hown : filter.consultations judges run context desk = entries := by
    have hnone := hentries []
    exact congrArg (fun outcome => outcome.2.host.entries) hnone
  rw [hown]
  exact hentries done

/-- Filters that are rewritten to each other judge alike, with the same consultations. -/
theorem judge_of_rewrites {filter filter' : RunFilter α} (h : Rewrites filter filter') (judges : α → Judge σ) :
    filter'.judge judges = filter.judge judges := by
  funext run context
  exact holds_of_rewrites _ h

/-! ## Chains -/

/-- The chain of some filters is no filter, or their conjunction up to a step of rewriting. -/
theorem chain_cases (parts : List (RunFilter α)) :
    (parts = [] ∧ chain parts = none) ∨ ∃ filter, chain parts = some filter ∧ Rewrites (.all parts) filter := by
  match parts with
  | [] => exact .inl ⟨rfl, rfl⟩
  | [part] => exact .inr ⟨part, rfl, .single (.single .all part)⟩
  | first :: second :: rest => exact .inr ⟨.all (first :: second :: rest), rfl, .refl⟩

/-- A run is accepted by a chain exactly as it is by the conjunction. -/
theorem isAccepted_chain (judges : α → Judge σ) (parts : List (RunFilter α)) (run : Run) :
    isAccepted ((chain parts).map fun filter => filter.judge judges) run =
      isAccepted (some ((RunFilter.all parts).judge judges)) run := by
  rcases chain_cases parts with ⟨rfl, hnone⟩ | ⟨filter, hchain, hrewrites⟩
  · rw [hnone]
    have hall : (RunFilter.all []).judge judges run = fun _ => pure true := by
      funext context
      rw [RunFilter.judge, holds, allHold]
    rw [isAccepted, hall]
    rfl
  · rw [hchain, Option.map_some, judge_of_rewrites hrewrites]

/-- A list of configurations is read item by item, up to the first that fails. -/
theorem ofValues_eq_mapM (configurations : List Value) : ofValues configurations = configurations.mapM ofValue := by
  induction configurations with
  | nil => rw [ofValues, List.mapM_nil]; rfl
  | cons value rest ih => rw [ofValues, List.mapM_cons, ih]

/-- The chain of a list of configurations is the chain of their filters. -/
theorem chainOf_list {configurations : List Value} {filters : List (RunFilter Criterion)}
    (h : List.Forall₂ (fun configuration filter => ofValue configuration = .ok filter) configurations filters) :
    chainOf (.list configurations) = .ok (chain filters) := by
  rw [chainOf, ofOperands, ofValues_eq_mapM, mapM_eq_ok_iff.mpr h]
  rfl

end FilterRewritingAux

/-- Selections with one judge, or without one, are the same operations as selections with the other. -/
def SelectAlike (judge? other? : Option (Judge σ)) : Prop :=
  ∀ (job : Job σ) (enumerator : Enumerator σ) (limit : Nat),
    selectRun job enumerator judge? limit = selectRun job enumerator other? limit ∧
      ∀ count, selectRuns limit job enumerator judge? count = selectRuns limit job enumerator other? count

namespace FilterRewritingAux

/-- Judges by which the same is accepted select alike. -/
theorem selectAlike_of_isAccepted {judge? other? : Option (Judge σ)}
    (h : ∀ run, isAccepted judge? run = isAccepted other? run) : SelectAlike judge? other? := by
  intro job enumerator limit
  have hone : selectRun job enumerator judge? limit = selectRun job enumerator other? limit := by
    induction limit with
    | zero => rfl
    | succ limit ih => simp only [selectRun, h, ih]
  refine ⟨hone, fun count => ?_⟩
  induction count with
  | zero => rfl
  | succ count ih => simp only [selectRuns, hone, ih]

end FilterRewritingAux

open RunFilter FilterRewritingAux

/-- Filters and what they are rewritten to.
1. Every filter has a normal form that it is rewritten to, and that is the only normal form that it is rewritten to.
2. A filter that is rewritten gives the same answer or failure about every run and leaves the same desk. It asks the
same conditions in the same order and as often, and gets the same answers: beside a journal it does the same, and these
are what is entered.
3. Configurations that can be read make a chain, and to select with the chain is to select with the conjunction of all
their filters. The same conditions are asked. -/
theorem rewritten_filters :
    (∀ filter : RunFilter α, filter.normal.IsNormal ∧ Rewrites filter filter.normal ∧
      ∀ other, Rewrites filter other → other.IsNormal → other = filter.normal) ∧
    (∀ filter other : RunFilter α, Rewrites filter other →
      ∀ (judges : α → Judge σ) (run : Run) (context : Context) (desk : Desk σ),
        (other.judge judges run context).on desk = (filter.judge judges run context).on desk ∧
          other.consultations judges run context desk = filter.consultations judges run context desk ∧
          ∀ done, (other.consulting judges run context).on (desk.withJournal done) =
            (((filter.judge judges run context).on desk).1, ((filter.judge judges run context).on desk).2.withJournal
              (done ++ filter.consultations judges run context desk))) ∧
    ∀ (configurations : List Value) (filters : List (RunFilter Criterion)),
      List.Forall₂ (fun configuration filter => ofValue configuration = .ok filter) configurations filters →
        ∃ chain?, chainOf (.list configurations) = .ok chain? ∧ ∀ judges : Criterion → Judge σ,
          SelectAlike (chain?.map fun filter => filter.judge judges) (some ((RunFilter.all filters).judge judges)) ∧
            SelectAlike (chain?.map fun filter => filter.consulting judges)
              (some ((RunFilter.all filters).consulting judges)) := by
  refine ⟨fun filter => ?_, fun filter other h judges run context desk => ?_, fun configurations filters h => ?_⟩
  · exact ⟨isNormal_normalUnder false filter, rewrites_normalUnder false filter,
      fun other => eq_normal_of_rewrites⟩
  · have hconsultations :
        other.consultations judges run context desk = filter.consultations judges run context desk := by
      rw [RunFilter.consultations, RunFilter.consultations, consulting, consulting, judge_of_rewrites h]
    refine ⟨by rw [judge_of_rewrites h], hconsultations, fun done => ?_⟩
    rw [consulting_on, judge_of_rewrites h, hconsultations]
  · refine ⟨chain filters, ?_, fun judges => ⟨?_, ?_⟩⟩
    · exact chainOf_list h
    · exact selectAlike_of_isAccepted (isAccepted_chain judges filters)
    · exact selectAlike_of_isAccepted (isAccepted_chain _ filters)

/-- A negated alternative whose last condition fails, and a chain of two configurations. The condition 2 is asked
twice. -/
theorem rewritten_filters_of_failing :
    let judges : Nat → Judge Unit := fun n _ _ => if n = 3 then throw .wrongType else return n % 2 == 0
    let filter : RunFilter Nat :=
      .not (.any [.all [.leaf 2, .leaf 1], .not (.any [.leaf 2, .all [.leaf 4]]), .not (.not (.leaf 3))])
    let other : RunFilter Nat :=
      .all [.any [.not (.leaf 2), .not (.leaf 1)], .any [.leaf 2, .leaf 4], .not (.leaf 3)]
    let configurations : List Value := [.text "parameters:A=1", .map [(.text "or", .list [])]]
    let filters : List (RunFilter Criterion) := [.leaf (.parameters "A=1"), .any []]
    filter.normal = other ∧ Rewrites filter other ∧
      (∀ run context, filter.consultations judges run context default =
          [(2, .ok true), (1, .ok false), (2, .ok true), (3, .error .wrongType)] ∧
        other.consultations judges run context default = filter.consultations judges run context default) ∧
      List.Forall₂ (fun configuration filter => ofValue configuration = .ok filter) configurations filters ∧
      ∃ chain?, chainOf (.list configurations) = .ok chain? ∧
        SelectAlike (chain?.map fun filter => filter.judge Criterion.judge)
          (some ((RunFilter.all filters).judge (Criterion.judge (σ := Unit)))) := by
  intro judges filter other configurations filters
  obtain ⟨hnormal, hkept, hchain⟩ := @rewritten_filters Unit Nat
  have hsame : filter.normal = other := rfl
  have hrewrites : Rewrites filter other := hsame ▸ (hnormal filter).2.1
  have hread :
      List.Forall₂ (fun configuration filter => ofValue configuration = .ok filter) configurations filters := by
    have hparts : splitSpec "parameters:A=1".toList = ("parameters".toList, "A=1".toList) := by decide
    refine .cons ?_ (.cons ?_ .nil)
    · rw [ofValue, ofSpec, ofSpecChars]
      simp only [hparts, if_true, String.ofList_toList]
    · rw [ofValue, ofOperands, ofValues]
      rfl
  obtain ⟨chain?, hchain?, halike⟩ := hchain configurations filters hread
  exact ⟨hsame, hrewrites, fun run context => ⟨rfl, (hkept filter other hrewrites judges run context default).2.1⟩,
    hread, chain?, hchain?, (halike Criterion.judge).1⟩

end RunPicker
