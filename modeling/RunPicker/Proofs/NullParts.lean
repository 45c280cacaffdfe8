import RunPicker.Proofs.Entries
import RunPicker.Proofs.Results
import RunPicker.Run.Reading

/-!
# Parts of runs that are null

The entry of a run may leave out its optional parts. Whether a part is left out or null makes no difference to the
result, the state and the parameters of a run (`null_parts`). A display name that is null is read as the word for null
(`named_by_null`), while one that is left out is made of the number. Null as the environment has a meaning of its own.
-/

namespace RunPicker

/-- The entries with null under some names. -/
def Entries.withNulls (entries : Entries Value) (names : List String) : Entries Value :=
  names.foldl (fun entries name => Entries.insert entries (.text name) .null) entries

/-- The entries but for those under some names. -/
def Entries.without (entries : Entries Value) (names : List String) : Entries Value :=
  entries.filter fun entry => !names.any fun name => Value.equal (.text name) entry.1

/-- The names of the optional parts of a run of which null is to say nothing. -/
def Run.voidableParts : List String :=
  ["result", "building", "parameters", "display_name"]

/-- The run of an entry under a display name, with all other parts as the entry says. -/
def Run.readUnder (displayName : String) (numberValue : Value) (entries : Entries Value) : Except Failure Run := do
  let number ← readNumber numberValue
  let result ← readResult number entries
  let snapshot ← readSnapshot number entries
  let contributions ← readContributions number entries
  let building := (part? entries "building").isSome
  return named { number, result, building, snapshot, contributions, displayName }

namespace NullPartsAux

open EntriesAux ResultsAux

/-! ## Entries -/

theorem named?_withNulls (entries : Entries Value) (names : List String) (name : String) :
    Entries.named? (entries.withNulls names) name =
      if name ∈ names then some .null else Entries.named? entries name := by
  induction names generalizing entries with
  | nil => rfl
  | cons first rest ih =>
    have hrest : entries.withNulls (first :: rest) = (Entries.insert entries (.text first) .null).withNulls rest := rfl
    rw [hrest, ih]
    by_cases hfirst : name = first
    · subst hfirst
      simp
    · rw [named?_insert_of_ne _ (Ne.symm hfirst)]
      simp [hfirst]

theorem named?_without (entries : Entries Value) (names : List String) (name : String) :
    Entries.named? (entries.without names) name = if name ∈ names then none else Entries.named? entries name := by
  have hkey (key : Value) (h : Value.equal (.text name) key = true) :
      (!names.any fun other => Value.equal (.text other) key) = !decide (name ∈ names) := by
    rw [equal_text_iff.mp h, Bool.not_inj_iff, Bool.eq_iff_iff, List.any_eq_true, decide_eq_true_iff]
    simp only [equal_text_iff, Value.text.injEq, exists_eq_right']
  induction entries with
  | nil => exact (ite_self none).symm
  | cons entry rest ih =>
    by_cases hname : Value.equal (.text name) entry.1 = true
    · rw [Entries.without, List.filter_cons, hkey entry.1 hname, ← Entries.without, named?_cons entry rest,
        if_pos hname]
      by_cases hmem : name ∈ names
      · simp [hmem, ih]
      · simp [hmem, named?_cons, hname]
    · rw [named?_cons entry rest, if_neg hname, ← ih, Entries.without, List.filter_cons]
      split
      · rw [named?_cons, if_neg hname, Entries.without]
      · rw [Entries.without]

/-! ## Runs -/

theorem part?_withNulls (entries : Entries Value) (names : List String) (name : String) :
    Run.part? (entries.withNulls names) name = Run.part? (entries.without names) name := by
  rw [Run.part?, Run.part?, named?_withNulls, named?_without]
  by_cases hname : name ∈ names
  · rw [if_pos hname, if_pos hname]
    rfl
  · rw [if_neg hname, if_neg hname]

theorem ofValue_of_number {entries : Entries Value} {numberValue : Value}
    (h : Entries.named? entries "number" = some numberValue) : Run.ofValue (.map entries) =
      Run.readUnder (((Entries.named? entries "display_name").map Value.display).getD "") numberValue entries := by
  simp only [Run.ofValue, h]
  rfl

theorem ofValue_of_no_number {entries : Entries Value} (h : Entries.named? entries "number" = none) :
    Run.ofValue (.map entries) =
      .error (.malformedHistory ("run '" ++ (Value.map entries).display ++ "' has no number")) := by
  simp only [Run.ofValue, h]

/-- What is read of an entry goes by the parts that count, and by the environment. -/
theorem readUnder_congr {first second : Entries Value} (displayName : String) (numberValue : Value)
    (hpart : ∀ name, Run.part? first name = Run.part? second name)
    (henvironment : Entries.named? first "environment" = Entries.named? second "environment") :
    Run.readUnder displayName numberValue first = Run.readUnder displayName numberValue second := by
  simp only [Run.readUnder, Run.readResult, Run.readSnapshot, Run.readContributions, hpart, henvironment]

/-- Under a display name that is not empty an entry is the run that it is without one, but for this name. -/
theorem readUnder_name {displayName : String} (h : displayName ≠ "") (numberValue : Value) (entries : Entries Value) :
    Run.readUnder displayName numberValue entries =
      (Run.readUnder "" numberValue entries).map fun run => { run with displayName } := by
  have hname : displayName.isEmpty = false := Bool.eq_false_iff.mpr fun hempty => h (String.isEmpty_iff.mp hempty)
  simp only [Run.readUnder, bind, Except.bind]
  cases Run.readNumber numberValue with
  | error failure => rfl
  | ok number =>
    dsimp only
    cases Run.readResult number entries with
    | error failure => rfl
    | ok result =>
      dsimp only
      cases Run.readSnapshot number entries with
      | error failure => rfl
      | ok snapshot =>
        dsimp only
        cases Run.readContributions number entries with
        | error failure => rfl
        | ok contributions =>
          simp only [Run.named, hname]
          rfl

/-- Without a display name a run is named by its number. -/
theorem displayName_of_readUnder {numberValue : Value} {entries : Entries Value} {run : Run}
    (h : Run.readUnder "" numberValue entries = .ok run) : run.displayName = Run.defaultName run.number := by
  obtain ⟨number, -, h⟩ := exists_of_bind_ok h
  obtain ⟨result, -, h⟩ := exists_of_bind_ok h
  obtain ⟨snapshot, -, h⟩ := exists_of_bind_ok h
  obtain ⟨contributions, -, h⟩ := exists_of_bind_ok h
  obtain rfl := Except.ok.inj h
  rfl

end NullPartsAux

open NullPartsAux

/-- Of an entry of a history, some optional parts are null in one version and left out in another. What is quoted of the
entry is to have a text, as it has unless an integer has too many digits.
1. Without a number neither is the entry of a run. The failures quote the entry as it is given.
2. Otherwise the two versions give the same run, or fail alike, if the display name is not among the parts.
3. If the display name is among them, they fail alike as well. But the run that is given is called by the word for null
where the display name is null, and by its number where it is left out. -/
theorem null_parts (entries : Entries Value) {names : List String}
    (hnames : ∀ name ∈ names, name ∈ Run.voidableParts) :
    let nulled := Run.ofValue (.map (entries.withNulls names))
    let left := Run.ofValue (.map (entries.without names))
    (Entries.named? entries "number" = none → (Value.map entries).hasText = true →
      nulled = .error (.malformedHistory
        ("run '" ++ (Value.map (entries.withNulls names)).display ++ "' has no number")) ∧
      left = .error (.malformedHistory ("run '" ++ (Value.map (entries.without names)).display ++ "' has no number"))) ∧
    ∀ numberValue, Entries.named? entries "number" = some numberValue →
      ("display_name" ∉ names → nulled = left) ∧
      ("display_name" ∈ names → numberValue.hasText = true →
        nulled = left.map (fun run => { run with displayName := "None" }) ∧
        ∀ run, left = .ok run → run.displayName = Run.defaultName run.number) := by
  intro nulled left
  have hother {name : String} (hname : name ∉ Run.voidableParts) :
      Entries.named? (entries.withNulls names) name = Entries.named? entries name ∧
        Entries.named? (entries.without names) name = Entries.named? entries name := by
    have hnot : name ∉ names := fun h => hname (hnames name h)
    rw [named?_withNulls, named?_without, if_neg hnot, if_neg hnot]
    exact ⟨rfl, rfl⟩
  obtain ⟨hnumber, hnumber'⟩ := hother (show "number" ∉ Run.voidableParts by decide)
  obtain ⟨henvironment, henvironment'⟩ := hother (show "environment" ∉ Run.voidableParts by decide)
  refine ⟨fun hnone _ => ?_, fun numberValue hvalue => ?_⟩
  · exact ⟨ofValue_of_no_number (hnumber.trans hnone), ofValue_of_no_number (hnumber'.trans hnone)⟩
  · have hread (displayName : String) :
        Run.readUnder displayName numberValue (entries.withNulls names) =
          Run.readUnder displayName numberValue (entries.without names) :=
      readUnder_congr _ _ (part?_withNulls entries names) (henvironment.trans henvironment'.symm)
    have hnulled := ofValue_of_number (hnumber.trans hvalue)
    have hleft := ofValue_of_number (hnumber'.trans hvalue)
    rw [named?_withNulls, hread] at hnulled
    rw [named?_without] at hleft
    refine ⟨fun hname => ?_, fun hname _ => ?_⟩
    · rw [if_neg hname] at hnulled hleft
      exact hnulled.trans hleft.symm
    · rw [if_pos hname] at hnulled hleft
      refine ⟨?_, fun run hrun => displayName_of_readUnder (hleft.symm.trans hrun)⟩
      have hnull : ((some Value.null).map Value.display).getD "" = "None" := by
        simp [Value.display, Value.literal]
      rw [hnull, readUnder_name (by decide)] at hnulled
      rw [show left = _ from hleft]
      exact hnulled

/-- An entry of a run that failed and has a name: with null for its result and its state, and without them. -/
theorem null_parts_of_failed :
    let entries : Entries Value := [(.text "number", .integer 7), (.text "result", .text "FAILURE"),
      (.text "display_name", .text "nightly")]
    let nulled := entries.withNulls ["result", "building"]
    let left := entries.without ["result", "building"]
    nulled.map Prod.snd = [.integer 7, .null, .text "nightly", .null] ∧
      left.map Prod.snd = [.integer 7, .text "nightly"] ∧ Run.ofValue (.map nulled) = Run.ofValue (.map left) ∧
      (Run.ofValue (.map left)).toOption.map (fun run => (run.result, run.displayName)) =
        some (.success, "nightly") := by
  intro entries nulled left
  have hnames : ∀ name ∈ ["result", "building"], name ∈ Run.voidableParts := by decide
  have hsame := ((null_parts entries hnames).2 (.integer 7) rfl).1 (by decide)
  exact ⟨rfl, rfl, hsame, by decide +kernel⟩

/-- A run whose display name is null is called by the word for null, and not by its number. -/
theorem named_by_null :
    let entries : Entries Value := [(.text "number", .integer 1)]
    let nameIn (entries : Entries Value) := (Run.ofValue (.map entries)).toOption.map Run.displayName
    nameIn (entries.withNulls ["display_name"]) = some "None" ∧
      nameIn (entries.without ["display_name"]) = some "#1" := by
  intro entries nameIn
  have hnull : ((Entries.named? (entries.withNulls ["display_name"]) "display_name").map Value.display).getD "" =
      "None" := by
    rw [named?_withNulls]
    simp [Value.display, Value.literal]
  have hnumber : Entries.named? (entries.withNulls ["display_name"]) "number" = some (.integer 1) := rfl
  refine ⟨?_, by decide +kernel⟩
  simp only [nameIn, ofValue_of_number hnumber, hnull]
  decide +kernel

end RunPicker
