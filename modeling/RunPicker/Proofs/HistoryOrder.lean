import RunPicker.Job

/-!
# The order of histories

A history is in the order of the numbers of its runs, and the runs of one number stay in the order in which they came.
That determines it (`eq_of_ordered`). So a history that has runs added to it is the history of all runs together
(`sortedRuns_append`), and what a condition picks from a history is the history of what it picks (`filter_sortedRuns`).
-/

namespace RunPicker

/-- The runs are in the order of their numbers. -/
def Ordered (runs : List Run) : Prop :=
  runs.Pairwise fun earlier later => earlier.number ≤ later.number

/-- The runs with a number. -/
def withNumber (number : Int) (runs : List Run) : List Run :=
  runs.filter fun run => run.number == number

namespace HistoryOrderAux

variable {runs others : List Run}

/-- The numbers that runs are sorted by are ordered one after the other. -/
theorem number_trans (run other third : Run) (h : decide (run.number ≤ other.number) = true)
    (h' : decide (other.number ≤ third.number) = true) : decide (run.number ≤ third.number) = true :=
  decide_eq_true (Int.le_trans (of_decide_eq_true h) (of_decide_eq_true h'))

/-- Of two runs, one has a number that is at most the other's. -/
theorem number_total (run other : Run) :
    (decide (run.number ≤ other.number) || decide (other.number ≤ run.number)) = true := by
  rw [Bool.or_eq_true, decide_eq_true_eq, decide_eq_true_eq]
  exact Int.le_total run.number other.number

theorem ordered_sortedRuns (runs : List Run) : Ordered (sortedRuns runs) :=
  (List.pairwise_mergeSort number_trans number_total runs).imp fun h => of_decide_eq_true h

theorem mem_sortedRuns {run : Run} : run ∈ sortedRuns runs ↔ run ∈ runs :=
  List.mem_mergeSort

theorem length_sortedRuns (runs : List Run) : (sortedRuns runs).length = runs.length :=
  List.length_mergeSort _

/-- The runs of one number stay as they came. -/
theorem withNumber_sortedRuns (number : Int) (runs : List Run) :
    withNumber number (sortedRuns runs) = withNumber number runs := by
  have hordered : (withNumber number runs).Pairwise fun run other => decide (run.number ≤ other.number) := by
    refine List.Pairwise.imp_of_mem (R := fun _ _ => True) (fun {run other} hrun hother _ => ?_)
      (List.pairwise_of_forall fun _ _ => trivial)
    have h := of_decide_eq_true (List.mem_filter.mp hrun).2
    have h' := of_decide_eq_true (List.mem_filter.mp hother).2
    simp only [h, h', Int.le_refl, decide_true]
  have hsublist : (withNumber number runs).Sublist (sortedRuns runs) :=
    List.sublist_mergeSort number_trans number_total hordered List.filter_sublist
  have hfiltered := hsublist.filter fun run => run.number == number
  have hsame : (withNumber number runs).filter (fun run => run.number == number) = withNumber number runs := by
    rw [withNumber, List.filter_filter]
    simp only [Bool.and_self]
  rw [hsame] at hfiltered
  have hlength : (withNumber number (sortedRuns runs)).length = (withNumber number runs).length :=
    ((List.mergeSort_perm runs _).filter _).length_eq
  exact (hfiltered.eq_of_length hlength.symm).symm

/-- The runs of the number of the first run begin with it. -/
theorem withNumber_cons_self (run : Run) (runs : List Run) :
    withNumber run.number (run :: runs) = run :: withNumber run.number runs := by
  simp [withNumber]

/-- No run has a number below that of the first. -/
theorem withNumber_eq_nil {run : Run} (h : Ordered (run :: runs)) {number : Int} (hnumber : number < run.number) :
    withNumber number (run :: runs) = [] := by
  refine List.filter_eq_nil_iff.mpr fun other hother => ?_
  have hle : run.number ≤ other.number := by
    rcases List.mem_cons.mp hother with rfl | hother
    · exact Int.le_refl _
    · exact (List.pairwise_cons.mp h).1 other hother
  have hne : other.number ≠ number := by omega
  simp [hne]

/-- Two histories begin with runs of the same number if they have the same runs of each. -/
theorem number_le_of_withNumber {run other : Run} (h : Ordered (other :: others))
    (hsame : withNumber run.number (run :: runs) = withNumber run.number (other :: others)) :
    other.number ≤ run.number := by
  refine Int.not_lt.mp fun hlt => ?_
  rw [withNumber_eq_nil h hlt, withNumber_cons_self] at hsame
  cases hsame

/-- A history is determined by its runs of each number. -/
theorem eq_of_ordered (h : Ordered runs) (h' : Ordered others)
    (hsame : ∀ number, withNumber number runs = withNumber number others) : runs = others := by
  induction runs generalizing others with
  | nil =>
    cases others with
    | nil => rfl
    | cons other others =>
      have hnil := hsame other.number
      rw [withNumber_cons_self] at hnil
      cases hnil
  | cons run runs ih =>
    cases others with
    | nil =>
      have hnil := hsame run.number
      rw [withNumber_cons_self] at hnil
      cases hnil
    | cons other others =>
      have hle := number_le_of_withNumber h' (hsame run.number)
      have hge := number_le_of_withNumber h (hsame other.number).symm
      have hnumber : other.number = run.number := by omega
      have hfirst := hsame run.number
      rw [withNumber_cons_self, ← hnumber, withNumber_cons_self, List.cons.injEq] at hfirst
      obtain rfl := hfirst.1
      rw [ih (List.pairwise_cons.mp h).2 (List.pairwise_cons.mp h').2 fun number => ?_]
      have hcons := hsame number
      by_cases hother : run.number = number
      · obtain rfl := hother
        rw [withNumber_cons_self, withNumber_cons_self] at hcons
        exact (List.cons.inj hcons).2
      · simpa [withNumber, hother] using hcons

/-- A history to which runs are added is the history of all runs together. -/
theorem sortedRuns_append (runs others : List Run) :
    sortedRuns (sortedRuns runs ++ others) = sortedRuns (runs ++ others) := by
  refine eq_of_ordered (ordered_sortedRuns _) (ordered_sortedRuns _) fun number => ?_
  rw [withNumber_sortedRuns, withNumber_sortedRuns, withNumber, List.filter_append, ← withNumber,
    withNumber_sortedRuns, withNumber, ← List.filter_append, ← withNumber]

/-- What a condition picks from a history is the history of what it picks. -/
theorem filter_sortedRuns (p : Run → Bool) (runs : List Run) :
    (sortedRuns runs).filter p = sortedRuns (runs.filter p) := by
  refine eq_of_ordered ((ordered_sortedRuns runs).filter p) (ordered_sortedRuns _) fun number => ?_
  have hcomm (xs : List Run) : withNumber number (xs.filter p) = (withNumber number xs).filter p := by
    simp only [withNumber, List.filter_filter, Bool.and_comm]
  rw [withNumber_sortedRuns, hcomm, hcomm, withNumber_sortedRuns]

end HistoryOrderAux

end RunPicker
