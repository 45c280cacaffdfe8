import RunPicker.Proofs.Configurations
import RunPicker.Proofs.Expansion
import RunPicker.Proofs.Integers
import RunPicker.Proofs.Refusals

/-!
# Selectors by the number of a run

The number that a selector goes by can be written in several ways: as an integer, as its decimal text with blanks around
it, as a reference to a variable with such a text, and in a specification. They all name the first run of the history
with that number (`numbered_runs`). No text makes such a selector fail unless the history does, and when it offers no
run, one notice tells why.
-/

namespace RunPicker

variable {σ : Type}

/-- The text is the decimal text of the integer with blanks around it. -/
def Text.IsDecimal (n : Int) (text : String) : Prop :=
  ∃ front back, AllBlank front ∧ AllBlank back ∧ text.toList = front ++ (toString n).toList ++ back

/-- The text writes the integer: it is the text of the integer, a decimal text with blanks around it, or a reference to
a variable that is set to one. -/
inductive WritesNumber (vars : Environment) (n : Int) : String → Prop where
  | integer : WritesNumber vars n (Value.integer n).display
  | decimal {text : String} (written : Text.IsDecimal n text) : WritesNumber vars n text
  | reference {name text : String} (named : (Segment.reference name true).IsNamed) (set : vars.get? name = some text)
      (written : Text.IsDecimal n text) : WritesNumber vars n ("$\x7b" ++ name ++ "\x7d")

/-- The run has the number, and no run before it in the history has it. -/
def IsFirstOfNumber (n : Int) (history : List Run) (run : Run) : Prop :=
  run.number = n ∧ ∃ older newer, history = older ++ run :: newer ∧ ∀ other ∈ older, other.number ≠ n

namespace RunNumbersAux

open ConfigurationsAux ExpansionAux QuotingAux

/-! ## Decimal texts -/

section

variable {n : Int} {text : String} (short : (toString n.natAbs).length ≤ Text.maxIntegerDigits)
  (written : Text.IsDecimal n text)

include short written

/-- A decimal text is read as its integer. -/
theorem integer?_of_decimal : Text.integer? (Text.trim text) = some n := by
  obtain ⟨front, back, hfront, hback, htext⟩ := written
  have hnumeral := Text.isNumeral_toString short
  have hblank := Text.IntegersAux.not_blank_of_numeral hnumeral
  have htrim : Text.trim text = toString n := by
    rw [Text.trim, htext, trimChars_append hfront hback (fun c hc => hblank c (List.mem_of_mem_head? hc))
      fun c hc => hblank c (List.mem_of_mem_getLast? hc), String.ofList_toList]
  rw [htrim, Text.integer?_iff]
  exact ⟨[], (toString n).toList, [], by simp, hnumeral, List.forall_mem_nil _, List.forall_mem_nil _⟩

/-- A decimal text holds no reference. -/
theorem dollar_not_mem_of_decimal : '$' ∉ text.toList := by
  have hdollar : Text.isBlank '$' = false := by decide
  obtain ⟨front, back, hfront, hback, htext⟩ := written
  rw [htext, List.mem_append, List.mem_append]
  rintro ((h | h) | h)
  · exact nomatch hdollar.symm.trans (hfront '$' h)
  · have hcharacters := Text.IntegersAux.characters_of_numeral (Text.isNumeral_toString short) '$' h
    exact absurd hcharacters (by decide)
  · exact nomatch hdollar.symm.trans (hback '$' h)

end

theorem display_integer (n : Int) : (Value.integer n).display = toString n := by
  simp [Value.display, Value.literal]

theorem isDecimal_toString (n : Int) : Text.IsDecimal n (toString n) :=
  ⟨[], [], List.forall_mem_nil _, List.forall_mem_nil _, by simp⟩

/-- Every text that writes an integer is read as this integer once it is expanded. -/
theorem integer?_of_writes {n : Int} {text : String} {vars : Environment}
    (short : (toString n.natAbs).length ≤ Text.maxIntegerDigits) (h : WritesNumber vars n text) :
    Text.integer? (Text.trim (vars.expand text)) = some n := by
  have hdecimal {text : String} (written : Text.IsDecimal n text) :
      Text.integer? (Text.trim (vars.expand text)) = some n := by
    rw [expand_eq_self vars (dollar_not_mem_of_decimal short written)]
    exact integer?_of_decimal short written
  cases h with
  | integer =>
    rw [display_integer]
    exact hdecimal (isDecimal_toString n)
  | decimal written => exact hdecimal written
  | @reference name value named set written =>
    have hwell : WellWritten [Segment.reference name true] := ⟨named, trivial, trivial⟩
    have hexpand := expandChars_sourceOf vars hwell
    have htext : ("$\x7b" ++ name ++ "\x7d").toList = Segment.sourceOf [.reference name true] := by
      simp [Segment.sourceOf, Segment.source]
    have hmeaning : String.join ([Segment.reference name true].map (Segment.meaning vars)) = value := by
      simp [Segment.meaning, set, String.join_cons, String.join_nil]
    rw [Environment.expand, htext, hexpand, hmeaning, String.ofList_toList]
    exact integer?_of_decimal short written

/-! ## Offers -/

/-- What is offered by a number when the history was read: the first run with the number, or none with a notice. -/
def numberOffer (name : String) (number : Int) :
    Except Failure (List Run) × Desk σ → Except Failure (Option Run) × Desk σ
  | (.error failure, after) => (.error failure, after)
  | (.ok history, after) => match ofNumber number history with
    | some run => (.ok (some run), after)
    | none => (.ok none, after.noticing (.noRunOfNumber name number))

section

variable (job : Job σ) {context : Context} (unmatched : context.lastMatch = none) {text : String} (desk : Desk σ)

include unmatched

/-- A text that spells no number offers no run, and the history is not read. -/
theorem next_byNumber_of_none (h : Text.integer? (Text.trim (context.expand text)) = none) :
    ((Selector.byNumber text).enumerator.next job context).on desk =
      (.ok none, desk.noticing (.notANumber (Selector.byNumber text).displayName (context.expand text))) := by
  simp only [Selector.enumerator, Enumerator.specific, unmatched, Option.isSome_none, Bool.false_eq_true, if_false,
    Selector.locateNumber, h]
  rfl

/-- A text that spells a number offers what the history has under it. -/
theorem next_byNumber_of_some {number : Int} (h : Text.integer? (Text.trim (context.expand text)) = some number) :
    ((Selector.byNumber text).enumerator.next job context).on desk =
      numberOffer (Selector.byNumber text).displayName number (job.history.on desk) := by
  simp only [Selector.enumerator, Enumerator.specific, unmatched, Option.isSome_none, Bool.false_eq_true, if_false,
    Selector.locateNumber, h, Job.runOfNumber, Work.on_bind]
  rcases job.history.on desk with ⟨failure | history, after⟩
  · rfl
  · simp only [numberOffer]
    cases ofNumber number history <;> rfl

end

section

variable (name : String) (number : Int) (reading : Except Failure (List Run) × Desk σ)

theorem numberOffer_error_iff {failure : Failure} :
    (numberOffer name number reading).1 = .error failure ↔ reading.1 = .error failure := by
  rcases reading with ⟨other | history, after⟩
  · simp [numberOffer]
  · cases hrun : ofNumber number history <;> simp [numberOffer, hrun]

theorem numberOffer_some_iff {run : Run} : (numberOffer name number reading).1 = .ok (some run) ↔
    ∃ history, reading.1 = .ok history ∧ IsFirstOfNumber number history run := by
  have hfirst (history : List Run) : ofNumber number history = some run ↔ IsFirstOfNumber number history run := by
    rw [ofNumber, List.find?_eq_some_iff_append, IsFirstOfNumber]
    simp
  rcases reading with ⟨failure | history, after⟩
  · simp [numberOffer]
  · cases hrun : ofNumber number history <;> simp [numberOffer, ← hfirst, hrun]

theorem numberOffer_none_iff : (numberOffer name number reading).1 = .ok none ↔
    ∃ history, reading.1 = .ok history ∧ ∀ run ∈ history, run.number ≠ number := by
  have hmissing (history : List Run) : ofNumber number history = none ↔ ∀ run ∈ history, run.number ≠ number := by
    rw [ofNumber, List.find?_eq_none]
    simp
  rcases reading with ⟨failure | history, after⟩
  · simp [numberOffer]
  · cases hrun : ofNumber number history <;> simp [numberOffer, ← hmissing, hrun]

/-- A notice is taken if no run is offered, and nothing else is done. -/
theorem numberOffer_desk :
    (∀ run, (numberOffer name number reading).1 = .ok (some run) → (numberOffer name number reading).2 = reading.2) ∧
      ((numberOffer name number reading).1 = .ok none →
        (numberOffer name number reading).2 = reading.2.noticing (.noRunOfNumber name number)) := by
  rcases reading with ⟨failure | history, after⟩
  · simp [numberOffer]
  · cases hrun : ofNumber number history <;> simp [numberOffer, hrun]

end

/-- The specification of a selector by the number of a run. -/
theorem ofSpec_number {n : Int} (short : (toString n.natAbs).length ≤ Text.maxIntegerDigits) :
    Selector.ofSpec ("number" ++ ":" ++ toString n) = .ok (.byNumber (toString n)) := by
  have hnumeral := Text.isNumeral_toString short
  have hend : Text.EndsUnblank (toString n).toList :=
    fun c hc => Text.IntegersAux.not_blank_of_numeral hnumeral c (List.mem_of_mem_getLast? hc)
  have hsplit : splitSpec ("number" ++ ":" ++ toString n).toList = ("number".toList, (toString n).toList) :=
    splitSpec_append (by decide) (by decide) (by decide) hend
  have hparts : specParts ("number" ++ ":" ++ toString n) = ("number", toString n) := by
    simp only [specParts, hsplit, String.ofList_toList]
  have hgiven : (toString n).isEmpty = false := by
    rw [Bool.eq_false_iff, ne_eq, String.isEmpty_iff]
    intro hempty
    rw [hempty] at hnumeral
    obtain ⟨sign, factor, row, values, hnil, -, hrow, -⟩ := hnumeral
    rw [(List.append_eq_nil_iff.mp hnil.symm).2] at hrow
    exact Text.IntegersAux.not_digitRow_nil hrow
  have hrequired : required "number" (toString n) = .ok (toString n) := by
    rw [required, hgiven]
    rfl
  rw [Selector.ofSpec, hparts]
  exact congrArg (Except.map Selector.byNumber) hrequired

end RunNumbersAux

open RunNumbersAux

/-- Let no run be accepted in a context.
1. An integer of not too many digits can be written in a specification, as itself, as its decimal text with blanks
around it, or by a variable that is set to such a text. A selector by any of these offers the first run of the history
with that number, and none if there is none. It fails if the history does, and only then.
2. A selector by any text fails in no other way. When it offers a run, it leaves what the reading of the history left.
When it offers none, it takes one notice: that the text is no number, and the history is not read then, or that no run
has the number. -/
theorem numbered_runs (job : Job σ) {context : Context} (unmatched : context.lastMatch = none) :
    (∀ n : Int, (toString n.natAbs).length ≤ Text.maxIntegerDigits →
      Selector.ofSpec ("number" ++ ":" ++ toString n) = .ok (.byNumber (toString n)) ∧
      ∀ text, WritesNumber context.vars n text → ∀ desk : Desk σ,
        let offer := (((Selector.byNumber text).enumerator.next job context).on desk).1
        let history := (job.history.on desk).1
        (∀ failure, offer = .error failure ↔ history = .error failure) ∧
        (∀ run, offer = .ok (some run) ↔ ∃ runs, history = .ok runs ∧ IsFirstOfNumber n runs run) ∧
        (offer = .ok none ↔ ∃ runs, history = .ok runs ∧ ∀ run ∈ runs, run.number ≠ n)) ∧
    ∀ (text : String) (desk : Desk σ),
      let name := (Selector.byNumber text).displayName
      let outcome := ((Selector.byNumber text).enumerator.next job context).on desk
      let reading := job.history.on desk
      (∀ failure, outcome.1 = .error failure → reading.1 = .error failure) ∧
      (∀ run, outcome.1 = .ok (some run) → outcome.2 = reading.2) ∧
      (outcome.1 = .ok none → outcome.2 = desk.noticing (.notANumber name (context.expand text)) ∨
        ∃ number, outcome.2 = reading.2.noticing (.noRunOfNumber name number)) := by
  constructor
  · intro n short
    refine ⟨ofSpec_number short, fun text writes desk => ?_⟩
    have hnumber : Text.integer? (Text.trim (context.expand text)) = some n := integer?_of_writes short writes
    rw [next_byNumber_of_some job unmatched desk hnumber]
    exact ⟨fun _ => numberOffer_error_iff .., fun _ => numberOffer_some_iff .., numberOffer_none_iff ..⟩
  · intro text desk name outcome reading
    cases hnumber : Text.integer? (Text.trim (context.expand text)) with
    | none =>
      have houtcome : outcome = (.ok none, desk.noticing (.notANumber name (context.expand text))) :=
        next_byNumber_of_none job unmatched desk hnumber
      simp [houtcome]
    | some number =>
      have houtcome : outcome = numberOffer name number reading := next_byNumber_of_some job unmatched desk hnumber
      obtain ⟨hoffered, hnone⟩ := numberOffer_desk name number reading
      rw [houtcome]
      exact ⟨fun _ => (numberOffer_error_iff ..).mp, hoffered, fun h => .inr ⟨number, hnone h⟩⟩

/-- Of two runs with the number that a variable is set to, between blanks, the first is offered. No run has the other
number that is set, and one notice tells this. -/
theorem numbered_runs_of_variables :
    let run (number : Int) (name : String) : Run := ⟨number, .success, false, .available [], [], name⟩
    let context : Context := .fresh [(.text "V", "\u2003-12\n"), (.text "W", "7")]
    let desk : Desk Recorded := ⟨.fresh ⟨0, false, false⟩ .gathered, ⟨"job", [run 3 "a", run (-12) "b", run (-12) "c"]⟩⟩
    let outcome (text : String) := ((Selector.byNumber text).enumerator.next Recorded.job context).on desk
    Selector.ofSpec "number:-12" = .ok (.byNumber "-12") ∧
      (outcome "$\x7bV\x7d").1 = .ok (some (run (-12) "b")) ∧
      (outcome "$\x7bW\x7d").1 = .ok none ∧
      (outcome "$\x7bW\x7d").2.console.notices = [.noRunOfNumber "Specific run ($\x7bW\x7d)" 7] := by
  intro run context desk outcome
  obtain ⟨hwritten, -⟩ := numbered_runs Recorded.job (show context.lastMatch = none from rfl)
  have hsigned : Text.IsDecimal (-12) "\u2003-12\n" := 
    ⟨['\u2003'], ['\n'], List.forall_mem_singleton.mpr rfl, List.forall_mem_singleton.mpr rfl, rfl⟩
  have hplain : Text.IsDecimal 7 "7" := isDecimal_toString 7
  obtain ⟨hspec, hoffers⟩ := hwritten (-12) (by decide)
  obtain ⟨-, hfound, -⟩ := hoffers _ (.reference (show (Segment.reference "V" true).IsNamed by decide) rfl hsigned) desk
  obtain ⟨-, -, hmissing⟩ := (hwritten 7 (by decide)).2 _
    (.reference (show (Segment.reference "W" true).IsNamed by decide) rfl hplain) desk
  have hfirst : IsFirstOfNumber (-12) desk.host.runs (run (-12) "b") :=
    ⟨rfl, [run 3 "a"], [run (-12) "c"], rfl, by decide⟩
  have hnone : (outcome "$\x7bW\x7d").1 = .ok none := hmissing.mpr ⟨_, rfl, by decide⟩
  refine ⟨hspec, (hfound _).mpr ⟨_, rfl, hfirst⟩, hnone, ?_⟩
  decide +kernel

end RunPicker
