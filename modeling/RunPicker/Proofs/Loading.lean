import RunPicker.Program
import RunPicker.Proofs.StoredHistory

/-!
# Loading

What the program loads of its files. The document in a text and the configuration of a selection depend on the files
alone; what is printed on the way are warnings, which do not go to the errors (`configOf_quiet`). Of a file that holds a
mapping the configuration is loaded without any (`configOf_silent`).
-/

namespace RunPicker

variable {σ : Type}

namespace LoadingAux

/-! ## Errors -/

/-- Nothing was printed to the errors, and the settings are the same. -/
structure KeepsErrors (before after : Console) : Prop where
  settings : after.settings = before.settings
  errors : after.printedTo .errors = before.printedTo .errors

section

variable {first second third : Console}

/-- A console keeps the errors that it has. -/
theorem keepsErrors_refl (console : Console) : KeepsErrors console console := ⟨rfl, rfl⟩

/-- Errors that are kept step by step are kept. -/
theorem KeepsErrors.trans (h : KeepsErrors first second) (h' : KeepsErrors second third) : KeepsErrors first third :=
  ⟨h'.settings.trans h.settings, h'.errors.trans h.errors⟩

end

/-- What is printed to a channel is added to what was printed there. -/
@[simp] theorem printedTo_print (channel printed : Channel) (text : String) (console : Console) :
    (console.print printed text).printedTo channel =
      console.printedTo channel ++ if printed == channel then text else "" := by
  rw [Console.printedTo, Console.print, List.filterMap_append, String.join_append]
  cases h : printed == channel <;>
    simp [h, Console.printedTo, -beq_iff_eq, String.join_cons, String.join_nil]

/-- Writing to the output is no error. -/
theorem keepsErrors_write (text ending : String) (console : Console) :
    KeepsErrors console (console.write text ending) :=
  ⟨rfl, by rw [Console.write, printedTo_print]; exact String.append_empty⟩

/-- An information is no error. -/
theorem keepsErrors_inform (verbosity : Int) (text : String) (console : Console) :
    KeepsErrors console (console.inform verbosity text) := by
  unfold Console.inform
  split
  · exact keepsErrors_write ..
  · exact keepsErrors_refl _

/-- A warning is no error. -/
theorem keepsErrors_warn (text ending : String) (console : Console) :
    KeepsErrors console (console.warn text ending) := by
  unfold Console.warn
  split
  · exact keepsErrors_refl _
  · exact keepsErrors_write ..

/-- A notice is no error. -/
theorem keepsErrors_note (notice : Notice) (console : Console) : KeepsErrors console (console.note notice) := by
  unfold Console.note
  split
  · exact keepsErrors_inform ..
  · exact ⟨rfl, rfl⟩

/-! ## Loading -/

/-- An operation on a part of the host changes the part and leaves the rest. -/
theorem onPart_on {τ α : Type} (part : σ → τ) (replace : τ → σ → σ) (work : Work τ α) (desk : Desk σ) :
    (work.onPart part replace).on desk = ((work.on ⟨desk.console, part desk.host⟩).1,
      ⟨(work.on ⟨desk.console, part desk.host⟩).2.console,
        replace (work.on ⟨desk.console, part desk.host⟩).2.host desk.host⟩) := rfl

/-- What is loaded of the files under some options. -/
def configIn (options : SelectOptions) (files : FileStore) : Except Failure Config :=
  match options.config? with
  | none => .ok .blank
  | some path => match files.get? path with
    | none => .ok .blank
    | some file => (Yaml.documentIn file.text).map fun data => ⟨path, if data.isMap then data else .empty⟩

/-- The document in a text is loaded as it is, with a warning if there is none. -/
theorem loadText_quiet (text : String) (desk : Desk σ) :
    ∃ console, KeepsErrors desk.console console ∧
      (Yaml.loadText text).on desk = (Yaml.documentIn text, { desk with console }) := by
  unfold Yaml.loadText Yaml.documentIn
  rcases Yaml.read text with (_ | failure) | document
  · exact ⟨_, keepsErrors_warn _ _ _, rfl⟩
  · exact ⟨desk.console, keepsErrors_refl _, rfl⟩
  · exact ⟨desk.console, keepsErrors_refl _, rfl⟩

/-- Only a text that holds no document is warned of. -/
theorem loadText_silent {text : String} (h : Yaml.documentIn text ≠ .ok .empty) (desk : Desk σ) :
    (Yaml.loadText text).on desk = (Yaml.documentIn text, desk) := by
  rcases hread : Yaml.read text with (_ | failure) | document
  · exact absurd (by rw [Yaml.documentIn, hread]) h
  · rw [Yaml.loadText, Yaml.documentIn, hread]
    rfl
  · rw [Yaml.loadText, Yaml.documentIn, hread]
    rfl

/-- The configuration is loaded of the files, and at most warnings are printed. -/
theorem configOf_quiet (options : SelectOptions) (desk : Desk Shelf) :
    ∃ console, KeepsErrors desk.console console ∧
      (Program.configOf options).on desk = (configIn options desk.host.files, ⟨console, desk.host⟩) := by
  unfold Program.configOf configIn
  cases options.config? with
  | none => exact ⟨desk.console, keepsErrors_refl _, rfl⟩
  | some path =>
    cases hfile : desk.host.files.get? path with
    | none =>
      simp only [onPart_on, Config.load, Work.on_bind, Work.on_host, hfile, Option.isNone_none, if_true,
        Work.on_onConsole, Work.on_pure]
      exact ⟨_, keepsErrors_warn .., rfl⟩
    | some file =>
      obtain ⟨console, hquiet, hload⟩ := loadText_quiet file.text ⟨desk.console, desk.host.files⟩
      simp only [onPart_on, Config.load, Work.on_bind, Work.on_host, hfile, Option.isNone_some, Bool.false_eq_true,
        if_false, Yaml.loadFile, hload]
      cases Yaml.documentIn file.text with
      | error failure => exact ⟨console, hquiet, rfl⟩
      | ok data =>
        cases hmap : data.isMap with
        | true =>
          refine ⟨console, hquiet, ?_⟩
          simp only [hmap, Except.map, if_true]
          rfl
        | false =>
          refine ⟨console.warn ("configuration '" ++ path ++ "' is not a mapping, using defaults") "\n",
            hquiet.trans (keepsErrors_warn ..), ?_⟩
          simp only [hmap, Except.map, Bool.false_eq_true, if_false]
          rfl

/-- The configuration in a file that holds a mapping is loaded, and nothing is printed. -/
theorem configOf_silent {options : SelectOptions} {path : String} {desk : Desk Shelf} {file : StoredFile}
    {data : Yaml.Document} (hpath : options.config? = some path) (hfile : desk.host.files.get? path = some file)
    (hdata : Yaml.documentIn file.text = .ok data) (hne : data ≠ .empty) (hmap : data.isMap = true) :
    (Program.configOf options).on desk = (.ok ⟨path, data⟩, desk) := by
  have hload : (Yaml.loadText file.text).on (⟨desk.console, desk.host.files⟩ : Desk FileStore) =
      (.ok data, ⟨desk.console, desk.host.files⟩) := by
    rw [loadText_silent (by rw [hdata]; exact fun h => hne (Except.ok.inj h)), hdata]
  simp only [Program.configOf, hpath, onPart_on, Config.load, Work.on_bind, Work.on_host, hfile, Option.isNone_some,
    Bool.false_eq_true, if_false, Yaml.loadFile, hload, hmap, if_true, Work.on_pure]

end LoadingAux

end RunPicker
