import Mathlib.Data.List.Chain
import RunPicker.Proofs.Journal

/-!
# The course of a selection

A `Course` tells a selection from outside: the candidates that were rejected, in their order, and how it ended. It says
what was asked and answered (`Course.exchanges`), what the selection gives (`Course.result`) and what it leaves in the
context (`Course.contextAfter`). Every selection has a course (`exists_course`), whatever the enumerator offers and
whatever the judge answers.
-/

namespace RunPicker

variable {σ : Type}

/-- The end of a selection: no candidate is left, a candidate repeats the one before it, a candidate is accepted, a
question fails, or the limit is reached. -/
inductive Ending where
  | exhausted
  | repeated (run : Run)
  | accepted (run : Run)
  | offerFailed (failure : Failure)
  | verdictFailed (run : Run) (failure : Failure)
  | cutOff

namespace Ending

/-- The candidate on which the judge was still asked. -/
@[simp] def judged : Ending → List Run
  | accepted run | verdictFailed run _ => [run]
  | _ => []

/-- The candidate that was accepted. -/
@[simp] def match? : Ending → Option Run
  | accepted run => some run
  | _ => none

/-- What the selection gives. -/
@[simp] def result : Ending → Except Failure (Option Run)
  | exhausted | repeated _ => .ok none
  | accepted run => .ok (some run)
  | offerFailed failure | verdictFailed _ failure => .error failure
  | cutOff => .error .endlessSelection

/-- The last questions, each with its context and its answer. `asks` says whether there is a judge. -/
@[simp] def exchanges (asks : Bool) (context : Context) : Ending → List (Context × Exchange)
  | exhausted => [(context, .offer (.ok none))]
  | repeated run => [(context, .offer (.ok (some run)))]
  | accepted run =>
    (context, .offer (.ok (some run))) :: if asks then [(context.seeing run, .verdict run (.ok true))] else []
  | offerFailed failure => [(context, .offer (.error failure))]
  | verdictFailed run failure =>
    [(context, .offer (.ok (some run))), (context.seeing run, .verdict run (.error failure))]
  | cutOff => []

/-- The desk that the selection leaves, after the last question left it another. The notice that a run was offered again
is given if the selection ended by that, and only then. -/
@[simp] def deskAfter (enumerator : Enumerator σ) (desk : Desk σ) : Ending → Desk σ
  | repeated run => desk.noting enumerator run
  | accepted run => desk.reporting enumerator run
  | _ => desk

end Ending

/-- A selection as it went: the candidates that were rejected, in their order, and its end. -/
structure Course where
  rejected : List Run
  ending : Ending

namespace Course

/-- The candidates that were judged, in their order. -/
def judged (course : Course) : List Run :=
  course.rejected ++ course.ending.judged

/-- The context that the selection leaves. -/
def contextAfter (course : Course) (context : Context) : Context :=
  { context with
    lastMatch := course.ending.match?.or context.lastMatch
    lastCandidate := course.judged.getLast?.or context.lastCandidate }

/-- The questions on rejected candidates: each is offered and judged once, before the next one is asked for. -/
def rejections : Context → List Run → List (Context × Exchange)
  | _, [] => []
  | context, run :: rest =>
    (context, .offer (.ok (some run))) :: (context.seeing run, .verdict run (.ok false)) ::
      rejections (context.seeing run) rest

/-- All questions of the selection, each with its context and its answer. -/
def exchanges (course : Course) (asks : Bool) (context : Context) : List (Context × Exchange) :=
  rejections context course.rejected ++
    course.ending.exchanges asks { context with lastCandidate := course.rejected.getLast?.or context.lastCandidate }

/-- No candidate that was judged is the same as the one before it, the first of which is `last?`; and one that was not
judged because of that is. -/
def Fits (course : Course) (last? : Option Run) : Prop :=
  (last?.toList ++ course.judged).IsChain (fun earlier later => later.same earlier = false) ∧
    ∀ run, course.ending = .repeated run →
      ∃ earlier ∈ (last?.toList ++ course.rejected).getLast?, run.same earlier = true

/-- What a course tells of a selection from a context and a desk. `entries` is its journal, and `last` the desk after
the last question. -/
structure Tells (course : Course) (job : Job σ) (enumerator : Enumerator σ) (judge? : Option (Judge σ)) (limit : Nat)
    (context : Context) (desk : Desk σ) (entries : List (Entry σ)) (last : Desk σ) : Prop where
  outcome : (selectRun job enumerator judge? limit).on ⟨context, desk⟩ =
    (course.ending.result, ⟨course.contextAfter context, course.ending.deskAfter enumerator last⟩)
  journaled : ∀ done, (selectRunJournaled job enumerator judge? limit).on ⟨context, desk.withJournal done⟩ =
    (course.ending.result, ⟨course.contextAfter context,
      (course.ending.deskAfter enumerator last).withJournal (done ++ entries)⟩)
  exchanges : entries.map (fun entry => (entry.context, entry.exchange)) = course.exchanges judge?.isSome context
  linked : Linked desk entries last
  fits : course.Fits context.lastCandidate
  /-- The limit ends a selection only after that many candidates, all of which were rejected. -/
  limited : course.ending = .cutOff → course.rejected.length = limit
  /-- A selection that ended by itself is the same under every greater limit. -/
  settled : course.ending ≠ .cutOff → ∀ more,
    (selectRun job enumerator judge? (limit + more)).on ⟨context, desk⟩ =
      (selectRun job enumerator judge? limit).on ⟨context, desk⟩

/-- The course with one rejected candidate more at its front. -/
def afterRejecting (run : Run) (course : Course) : Course :=
  { course with rejected := run :: course.rejected }

end Course

namespace CourseAux

/-- The last of a list that begins with a value is the last of the rest, or else the value. -/
theorem getLast?_cons_or {α : Type} (a : α) (l : List α) (b? : Option α) :
    (a :: l).getLast?.or b? = l.getLast?.or (some a) := by
  cases h : l.getLast? <;> simp [List.getLast?_cons, h]

variable (course : Course) (context : Context) (run : Run)

/-- What a selection leaves in the context is what its rest leaves after a rejected candidate. -/
theorem contextAfter_afterRejecting :
    (course.afterRejecting run).contextAfter context = course.contextAfter (context.seeing run) := by
  simp only [Course.contextAfter, Course.judged, Course.afterRejecting, Context.seeing, List.cons_append,
    getLast?_cons_or]

/-- The questions of a selection are those on its first rejected candidate and those of its rest. -/
theorem exchanges_afterRejecting (asks : Bool) :
    (course.afterRejecting run).exchanges asks context =
      (context, .offer (.ok (some run))) :: (context.seeing run, .verdict run (.ok false)) ::
        course.exchanges asks (context.seeing run) := by
  simp only [Course.exchanges, Course.afterRejecting, Course.rejections, Context.seeing, List.cons_append,
    getLast?_cons_or]

/-- A course that fits after a candidate fits with that candidate at its front, unless it repeats the one before. -/
theorem fits_afterRejecting (fresh : isRepeated context run = false) (h : course.Fits (some run)) :
    (course.afterRejecting run).Fits context.lastCandidate := by
  obtain ⟨hchain, hend⟩ := h
  cases hlast : context.lastCandidate with
  | none =>
    exact ⟨by simpa [Course.judged, Course.afterRejecting] using hchain,
      by simpa [Course.afterRejecting] using hend⟩
  | some last =>
    have hne : run.same last = false := isRepeated_eq_false_iff.mp fresh last hlast
    refine ⟨?_, ?_⟩
    · simp only [Course.judged, Course.afterRejecting, Option.toList, List.cons_append, List.nil_append] at hchain ⊢
      exact List.isChain_cons_cons.mpr ⟨hne, hchain⟩
    · intro again hagain
      simpa [Course.afterRejecting, List.getLast?_cons] using hend again hagain

/-- A course without rejected candidates fits if its end does. -/
theorem fits_of_ending {ending : Ending} {last? : Option Run}
    (hjudged : ∀ run ∈ ending.judged, ∀ last ∈ last?, run.same last = false)
    (hrepeated : ∀ run, ending = .repeated run → ∃ last ∈ last?, run.same last = true) :
    (Course.mk [] ending).Fits last? := by
  refine ⟨?_, fun run h => by cases last? <;> simpa using hrepeated run h⟩
  cases last? with
  | none => cases ending <;> simp [Course.judged, Ending.judged]
  | some last => cases ending <;> simp_all [Course.judged, Ending.judged]

variable {context} {job : Job σ} {enumerator : Enumerator σ} {judge? : Option (Judge σ)} {limit : Nat}
  {desk last : Desk σ}

/-- A selection that its first turn ends has a course without rejected candidates. -/
theorem tells_of_ended {ending : Ending}
    (hturn : turn job enumerator judge? ⟨context, desk⟩ =
      .ended ending.result ⟨(Course.mk [] ending).contextAfter context, ending.deskAfter enumerator last⟩)
    (hexchanges : (turnEntries job enumerator judge? context desk).map (fun entry => (entry.context, entry.exchange)) =
      ending.exchanges judge?.isSome context)
    (hlinked : Linked desk (turnEntries job enumerator judge? context desk) last)
    (hfits : (Course.mk [] ending).Fits context.lastCandidate) (hend : ending ≠ .cutOff) :
    (Course.mk [] ending).Tells job enumerator judge? (limit + 1) context desk
      (turnEntries job enumerator judge? context desk) last where
  outcome := by rw [selectRun_succ, hturn]
  journaled := fun done => by rw [selectRunJournaled, selectRun_succ, turn_journaled, hturn]; rfl
  exchanges := by rw [hexchanges]; simp [Course.exchanges, Course.rejections]
  linked := hlinked
  fits := hfits
  limited := fun h => absurd h hend
  settled := fun _ more => by
    rw [show limit + 1 + more = limit + more + 1 by omega, selectRun_succ, selectRun_succ, hturn]

/-- A selection whose first candidate is rejected has the course of its rest, with that candidate at the front. -/
theorem tells_of_rejected {course : Course} {run : Run} {after : Desk σ} {entries : List (Entry σ)}
    (hturn : turn job enumerator judge? ⟨context, desk⟩ = .rejected run ⟨context.seeing run, after⟩)
    (hexchanges : (turnEntries job enumerator judge? context desk).map (fun entry => (entry.context, entry.exchange)) =
      [(context, .offer (.ok (some run))), (context.seeing run, .verdict run (.ok false))])
    (hlinked : Linked desk (turnEntries job enumerator judge? context desk) after)
    (hfresh : isRepeated context run = false)
    (h : course.Tells job enumerator judge? limit (context.seeing run) after entries last) :
    (course.afterRejecting run).Tells job enumerator judge? (limit + 1) context desk
      (turnEntries job enumerator judge? context desk ++ entries) last where
  outcome := by rw [selectRun_succ, hturn, contextAfter_afterRejecting]; exact h.outcome
  journaled := fun done => by
    rw [selectRunJournaled, selectRun_succ, turn_journaled, hturn, contextAfter_afterRejecting, ← List.append_assoc]
    exact h.journaled _
  exchanges := by
    rw [List.map_append, hexchanges, h.exchanges, exchanges_afterRejecting]
    rfl
  linked := hlinked.append h.linked
  fits := fits_afterRejecting course context run hfresh h.fits
  limited := fun hcut => by
    have hlen := h.limited hcut
    simp only [Course.afterRejecting, List.length_cons]
    omega
  settled := fun hcut more => by
    rw [show limit + 1 + more = limit + more + 1 by omega, selectRun_succ, selectRun_succ, hturn]
    exact h.settled hcut more

section

variable (judge?) {run} {after : Desk σ} (hnext : (enumerator.next job context).on desk = (.ok (some run), after))
  (hfresh : isRepeated context run = false)

include hnext hfresh

/-- The questions of a turn whose candidate is judged. -/
theorem map_turnEntries_judged :
    (turnEntries job enumerator judge? context desk).map (fun entry => (entry.context, entry.exchange)) =
      (context, .offer (.ok (some run))) :: if judge?.isSome then
        [(context.seeing run, .verdict run (verdict judge? run (context.seeing run) after).1)] else [] := by
  cases judge? <;> simp [turnEntries, hnext, hfresh, verdictEntries]

/-- A turn whose candidate is judged leaves the desk that the judge left. -/
theorem linked_turnEntries_judged :
    Linked desk (turnEntries job enumerator judge? context desk) (verdict judge? run (context.seeing run) after).2 := by
  cases judge? <;> simp [turnEntries, hnext, hfresh, verdictEntries, verdict, Linked]

end

/-- Only a judge gives an answer other than acceptance. -/
theorem isSome_of_verdict {run : Run} {answer : Except Failure Bool} {after : Desk σ}
    (h : verdict judge? run context desk = (answer, after)) (hne : answer ≠ .ok true) : judge?.isSome = true := by
  cases judge? with
  | none => exact absurd (congrArg Prod.fst h).symm hne
  | some judge => rfl

end CourseAux

open CourseAux

/-- Every selection has a course, whatever its enumerator offers, whatever its judge answers and whatever the context
was. It is the course of the journal that tells all questions: each rejected candidate was offered and judged once, in
the order of the offers, none of them repeats the one before it, and the selection ends at the first candidate that is
accepted or repeats the one before it, or when no candidate is left. -/
theorem exists_course (job : Job σ) (enumerator : Enumerator σ) (judge? : Option (Judge σ)) (limit : Nat)
    (context : Context) (desk : Desk σ) :
    ∃ (course : Course) (entries : List (Entry σ)) (last : Desk σ),
      course.Tells job enumerator judge? limit context desk entries last := by
  induction limit generalizing context desk with
  | zero =>
    refine ⟨⟨[], .cutOff⟩, [], desk, rfl, fun done => ?_, rfl, rfl, ?_, fun _ => rfl, fun h => absurd rfl h⟩
    · simp [selectRunJournaled, Ending.result, Ending.deskAfter, Course.contextAfter, Course.judged, Ending.judged,
        Ending.match?]
    · exact fits_of_ending (by simp [Ending.judged]) (by simp)
  | succ limit ih =>
    have hcase := turn_case job enumerator judge? ⟨context, desk⟩
    generalize hturn : turn job enumerator judge? ⟨context, desk⟩ = taken at hcase
    cases hcase with
    | offerFailed hnext =>
      refine ⟨⟨[], .offerFailed _⟩, _, _, tells_of_ended hturn ?_ ?_ (fits_of_ending ?_ ?_) ?_⟩ <;>
        simp [turnEntries, hnext, Linked]
    | exhausted hnext =>
      refine ⟨⟨[], .exhausted⟩, _, _, tells_of_ended hturn ?_ ?_ (fits_of_ending ?_ ?_) ?_⟩ <;>
        simp [turnEntries, hnext, Linked]
    | @repeated run _ hnext hagain =>
      refine ⟨⟨[], .repeated run⟩, _, _, tells_of_ended hturn ?_ ?_ (fits_of_ending ?_ ?_) ?_⟩
      case refine_4 =>
        intro again h
        cases h
        exact isRepeated_iff.mp hagain
      all_goals simp [turnEntries, hnext, hagain, Linked]
    | @verdictFailed run _ _ failure hnext hfresh hverdict =>
      have hexchanges := map_turnEntries_judged judge? hnext hfresh
      have hlinked := linked_turnEntries_judged judge? hnext hfresh
      rw [hverdict] at hexchanges hlinked
      refine ⟨⟨[], .verdictFailed run failure⟩, _, _, tells_of_ended hturn ?_ hlinked (fits_of_ending ?_ ?_) ?_⟩
      · rw [hexchanges, if_pos (isSome_of_verdict hverdict (by simp))]
        rfl
      · simpa using isRepeated_eq_false_iff.mp hfresh
      · simp
      · simp
    | @accepted run _ _ hnext hfresh hverdict =>
      have hexchanges := map_turnEntries_judged judge? hnext hfresh
      have hlinked := linked_turnEntries_judged judge? hnext hfresh
      rw [hverdict] at hexchanges hlinked
      refine ⟨⟨[], .accepted run⟩, _, _, tells_of_ended hturn ?_ hlinked (fits_of_ending ?_ ?_) ?_⟩
      · rw [hexchanges]
        rfl
      · simpa using isRepeated_eq_false_iff.mp hfresh
      · simp
      · simp
    | @rejected run _ desk' hnext hfresh hverdict =>
      -- the rest of the selection has a course, from the context in which the candidate was seen
      have hexchanges := map_turnEntries_judged judge? hnext hfresh
      have hlinked := linked_turnEntries_judged judge? hnext hfresh
      rw [hverdict] at hexchanges hlinked
      obtain ⟨course, entries, last, h⟩ := ih (context.seeing run) desk'
      refine ⟨course.afterRejecting run, _, last, tells_of_rejected hturn ?_ hlinked hfresh h⟩
      rw [hexchanges, if_pos (isSome_of_verdict hverdict (by simp))]

end RunPicker
