import RunPicker.Job.Stored
import RunPicker.Proofs.Journal

/-!
# Stored histories

A stored job keeps what it last read of its file. While the file is rewritten, deleted and asked about in any order, the
job answers as one that has read nothing yet (`stored_history_transparent`), as long as the stamp of the file tells its
versions apart. `HistoryStep` is a step in the life of such a job, `Reading` a reading of its file in full, and
`KeepsReading` says what holds between any two steps.
-/

namespace RunPicker

variable {σ : Type}

/-- A question about a job. -/
inductive Question where
  | name
  | history

/-- The answer to a question about a job. -/
inductive Answer where
  | name (text : String)
  | history (runs : List Run)

/-- Asks about a job. -/
def Job.ask (job : Job σ) : Question → Work σ Answer
  | .name => Answer.name <$> job.name
  | .history => Answer.history <$> job.history

/-- A step in the life of a stored job: its file is rewritten or deleted, or the job is asked about. -/
inductive HistoryStep where
  | rewrite (file : StoredFile)
  | delete
  | ask (question : Question)

/-- A reading of the file in full, under the stamp that the file had: was it completed? -/
structure Reading where
  stamp : Stamp
  complete : Bool

/-- The stamp of the last reading that was completed. -/
def lastComplete (readings : List Reading) : Option Stamp :=
  (readings.filter Reading.complete).getLast?.map Reading.stamp

namespace Shelf

/-- The job whose history is in a file, of which every reading of the file is entered. -/
def jobJournaled (path : String) : Job (Journal Reading Shelf) :=
  jobOf (loadWith Journal.host (fun stamp =>
    (reload path stamp).journaled fun _ result _ => ⟨stamp, result.isOk⟩) path) path

/-- The readings that a question makes of the file. -/
def readings (path : String) (desk : Desk Shelf) (question : Question) : List Reading :=
  (((jobJournaled path).ask question).on (desk.withJournal [])).2.host.entries

end Shelf

namespace HistoryStep

/-- The version of the file that a step writes. -/
def version? : HistoryStep → Option StoredFile
  | rewrite file => some file
  | delete | ask _ => none

/-- The desk after a step. -/
def perform (path : String) (desk : Desk Shelf) : HistoryStep → Desk Shelf
  | rewrite file => { desk with host := { desk.host with files := desk.host.files.write path file } }
  | delete => { desk with host := { desk.host with files := desk.host.files.delete path } }
  | ask question => (((Shelf.job path).ask question).on desk).2

/-- The readings that a step makes of the file. -/
def readings (path : String) (desk : Desk Shelf) : HistoryStep → List Reading
  | rewrite _ | delete => []
  | ask question => Shelf.readings path desk question

end HistoryStep

/-- The desk after some steps. -/
def afterSteps (path : String) : Desk Shelf → List HistoryStep → Desk Shelf
  | desk, [] => desk
  | desk, step :: rest => afterSteps path (step.perform path desk) rest

/-- The readings that some steps make of the file. -/
def readingsOfSteps (path : String) : Desk Shelf → List HistoryStep → List Reading
  | _, [] => []
  | desk, step :: rest => step.readings path desk ++ readingsOfSteps path (step.perform path desk) rest

/-- The versions that the file has in the course of some steps. -/
def versions (path : String) (files : FileStore) (steps : List HistoryStep) : List StoredFile :=
  (files.get? path).toList ++ steps.filterMap HistoryStep.version?

/-- The document in a text. A malformed one and one that counts as false are empty. -/
def Yaml.documentIn (text : String) : Except Failure Document :=
  match read text with
  | .ok document => .ok (if document.value.isTrue then document else .empty)
  | .error .malformed => .ok .empty
  | .error (.noValue failure) => .error failure

/-- The document and the runs of the history in a file. -/
def StoredFile.history (file : StoredFile) : Except Failure (Entries Value × List Run) :=
  Yaml.documentIn file.text >>= fun document => readHistory document.value

/-- What holds between two steps: the file is one of the versions that were seen, and what is kept is the history in one
of them, under the stamp of the last reading that was completed. -/
structure KeepsReading (path : String) (seen : List StoredFile) (readings : List Reading) (shelf : Shelf) : Prop where
  current : ∀ file, shelf.files.get? path = some file → file ∈ seen
  stamp : shelf.cache.stamp? = lastComplete readings
  content : ∀ stamp, shelf.cache.stamp? = some stamp →
    ∃ file ∈ seen, file.stamp = stamp ∧ file.history = .ok (shelf.cache.content, shelf.cache.runs)

namespace StoredHistoryAux

open FileStore

/-- Loading a text gives the document in it and at most warns. -/
theorem loadText_on (text : String) (desk : Desk σ) :
    ∃ console, (Yaml.loadText text).on desk = (Yaml.documentIn text, { desk with console }) := by
  unfold Yaml.loadText Yaml.documentIn
  rcases Yaml.read text with (_ | failure) | document
  · exact ⟨_, rfl⟩
  · exact ⟨desk.console, rfl⟩
  · exact ⟨desk.console, rfl⟩

/-- A reading of a file in full gives the history in it and keeps it, or it fails and keeps nothing. -/
theorem reload_on {path : String} {desk : Desk Shelf} {file : StoredFile} (h : desk.host.files.get? path = some file)
    (stamp : Stamp) :
    ∃ console, (Shelf.reload path stamp).on desk = match file.history with
      | .ok (content, runs) =>
        (.ok ⟨some stamp, content, runs⟩, ⟨console, ⟨desk.host.files, ⟨some stamp, content, runs⟩⟩⟩)
      | .error failure => (.error failure, ⟨console, desk.host⟩) := by
  obtain ⟨console, hload⟩ := loadText_on file.text desk
  have hfile : Yaml.loadFile desk.host.files path = (Yaml.loadText file.text : Work Shelf Yaml.Document) := by
    rw [Yaml.loadFile, h]
  simp only [Shelf.reload, Work.on_bind, Work.on_host, hfile, hload, StoredFile.history]
  cases Yaml.documentIn file.text with
  | error failure => exact ⟨console, rfl⟩
  | ok document =>
    have hhistory : (Except.ok document >>= fun document => readHistory document.value) = readHistory document.value :=
      rfl
    rw [hhistory]
    simp only [Work.on_ofExcept]
    rcases readHistory document.value with failure | ⟨content, runs⟩
    · exact ⟨console, rfl⟩
    · simp only [Work.on_onConsole, Work.on_onHost, Work.on_pure]
      exact ⟨_, rfl⟩

/-- The history is loaded if the file is there: what is kept, if its stamp is that of the file, and else what is
read. -/
theorem loadWith_on (shelf : σ → Shelf) (reload : Stamp → Work σ HistoryCache) (path : String) (desk : Desk σ) :
    (Shelf.loadWith shelf reload path).on desk = match (shelf desk.host).files.get? path with
      | none => (.error (.historyNotFound path), desk)
      | some file =>
        if (shelf desk.host).cache.stamp? = some file.stamp then (.ok (shelf desk.host).cache, desk)
        else (reload file.stamp).on desk := by
  simp only [Shelf.loadWith, Work.on_bind, Work.on_host]
  cases (shelf desk.host).files.get? path with
  | none => rfl
  | some file =>
    by_cases hstamp : (shelf desk.host).cache.stamp? = some file.stamp
    · simp [hstamp]
    · simp [hstamp]

/-- The answer to a question by what was loaded. -/
def answerOf (path : String) (cache : HistoryCache) : Question → Answer
  | .name => .name (((Entries.named? cache.content "job").map Value.display).getD (baseName path))
  | .history => .history cache.runs

/-- A question is answered by what is loaded, and fails only if that fails. -/
theorem ask_jobOf (load : Work σ HistoryCache) (path : String) (question : Question) (desk : Desk σ) :
    ((Shelf.jobOf load path).ask question).on desk = match load.on desk with
      | (.ok cache, after) => (.ok (answerOf path cache question), after)
      | (.error failure, after) => (.error failure, after) := by
  cases question <;> simp only [Job.ask, Shelf.jobOf, Work.on_map, Work.on_bind] <;>
    rcases load.on desk with ⟨failure | cache, after⟩ <;> rfl

/-- The readings that are made when the history is loaded. -/
def loadReadings (path : String) (desk : Desk Shelf) : List Reading :=
  match desk.host.files.get? path with
  | none => []
  | some file =>
    if desk.host.cache.stamp? = some file.stamp then []
    else [⟨file.stamp, ((Shelf.load path).on desk).1.isOk⟩]

/-- A question beside a journal is the question itself, and the readings that are made for it are entered. -/
theorem ask_jobJournaled (path : String) (question : Question) (desk : Desk Shelf) (done : List Reading) :
    ((Shelf.jobJournaled path).ask question).on (desk.withJournal done) =
      ((((Shelf.job path).ask question).on desk).1,
        (((Shelf.job path).ask question).on desk).2.withJournal (done ++ loadReadings path desk)) := by
  have hhost : ((desk.withJournal done).host.host) = desk.host := rfl
  simp only [Shelf.jobJournaled, Shelf.job, ask_jobOf, loadReadings, Shelf.load, loadWith_on, hhost, id_eq]
  cases desk.host.files.get? path with
  | none => simp
  | some file =>
    by_cases hstamp : desk.host.cache.stamp? = some file.stamp
    · simp [hstamp]
    · simp only [hstamp, if_false, Work.on_journaled]
      rcases (Shelf.reload path file.stamp).on desk with ⟨failure | cache, after⟩ <;> rfl

/-- The readings that a question makes are those for which the history is loaded. -/
theorem readings_eq (path : String) (question : Question) (desk : Desk Shelf) :
    Shelf.readings path desk question = loadReadings path desk := by
  rw [Shelf.readings, ask_jobJournaled]
  rfl

section

variable {path : String} {desk : Desk Shelf} {file : StoredFile}

theorem load_of_missing (h : desk.host.files.get? path = none) :
    (Shelf.load path).on desk = (.error (.historyNotFound path), desk) := by
  rw [Shelf.load, loadWith_on]
  simp [h]

/-- A file that has not changed is not read. -/
theorem load_of_kept (h : desk.host.files.get? path = some file) (hstamp : desk.host.cache.stamp? = some file.stamp) :
    (Shelf.load path).on desk = (.ok desk.host.cache, desk) := by
  rw [Shelf.load, loadWith_on]
  simp [h, hstamp]

/-- A file that has changed is read in full. -/
theorem load_of_changed (h : desk.host.files.get? path = some file)
    (hstamp : desk.host.cache.stamp? ≠ some file.stamp) :
    (Shelf.load path).on desk = (Shelf.reload path file.stamp).on desk := by
  rw [Shelf.load, loadWith_on]
  simp [h, hstamp]

end

/-- What is loaded is kept, and a failure leaves the files and what was kept as they were. -/
theorem load_host (path : String) (desk : Desk Shelf) :
    ((Shelf.load path).on desk).2.host = match ((Shelf.load path).on desk).1 with
      | .ok cache => { desk.host with cache }
      | .error _ => desk.host := by
  cases hfile : desk.host.files.get? path with
  | none => rw [load_of_missing hfile]
  | some file =>
    by_cases hstamp : desk.host.cache.stamp? = some file.stamp
    · rw [load_of_kept hfile hstamp]
    · obtain ⟨console, hreload⟩ := reload_on hfile file.stamp
      rw [load_of_changed hfile hstamp, hreload]
      rcases file.history with failure | ⟨content, runs⟩ <;> rfl

/-- What the job of a shelf that has read nothing yet loads of some files. -/
def loadedFresh (path : String) (files : FileStore) : Except Failure HistoryCache :=
  match files.get? path with
  | none => .error (.historyNotFound path)
  | some file => file.history.map fun (content, runs) => ⟨some file.stamp, content, runs⟩

theorem loadedFresh_of_file {path : String} {files : FileStore} {file : StoredFile} (h : files.get? path = some file) :
    loadedFresh path files = file.history.map fun (content, runs) => ⟨some file.stamp, content, runs⟩ := by
  rw [loadedFresh, h]

/-- What is loaded of a file that has changed is what is in it. -/
theorem loadedFresh_of_changed {path : String} {desk : Desk Shelf} {file : StoredFile}
    (h : desk.host.files.get? path = some file) (hstamp : desk.host.cache.stamp? ≠ some file.stamp) :
    ((Shelf.load path).on desk).1 = loadedFresh path desk.host.files := by
  obtain ⟨console, hreload⟩ := reload_on h file.stamp
  rw [load_of_changed h hstamp, hreload, loadedFresh_of_file h]
  rcases file.history with failure | ⟨content, runs⟩ <;> rfl

variable {path : String} {seen : List StoredFile} {readings : List Reading}

/-- As long as the stamps tell the versions that were seen apart, what is loaded is what is in the file. -/
theorem loadedFresh_of_keepsReading {desk : Desk Shelf} (h : KeepsReading path seen readings desk.host)
    (told : ∀ file ∈ seen, ∀ other ∈ seen, file.stamp = other.stamp → file.text = other.text) :
    ((Shelf.load path).on desk).1 = loadedFresh path desk.host.files := by
  cases hfile : desk.host.files.get? path with
  | none => rw [load_of_missing hfile, loadedFresh, hfile]
  | some file =>
    by_cases hstamp : desk.host.cache.stamp? = some file.stamp
    · -- what is kept was read of a version with the same stamp, and so with the same text
      obtain ⟨version, hseen, hversion, hhistory⟩ := h.content file.stamp hstamp
      have htext := told file (h.current file hfile) version hseen hversion.symm
      have hsame : file.history = version.history := by rw [StoredFile.history, StoredFile.history, htext]
      rw [load_of_kept hfile hstamp, loadedFresh_of_file hfile, hsame, hhistory, ← hstamp]
      rfl
    · exact loadedFresh_of_changed hfile hstamp

/-- A reading that was completed is the last of those, and one that was not changes nothing about them. -/
theorem lastComplete_append (readings : List Reading) (stamp : Stamp) (complete : Bool) :
    lastComplete (readings ++ [⟨stamp, complete⟩]) = if complete then some stamp else lastComplete readings := by
  cases complete <;> simp [lastComplete, List.filter_append]

/-- The answer to a question is that of what is loaded. -/
theorem ask_fst (path : String) (question : Question) (desk : Desk Shelf) :
    (((Shelf.job path).ask question).on desk).1 =
      ((Shelf.load path).on desk).1.map fun cache => answerOf path cache question := by
  rw [Shelf.job, ask_jobOf]
  rcases (Shelf.load path).on desk with ⟨failure | cache, after⟩ <;> rfl

/-- A question leaves the shelf that the loading leaves. -/
theorem ask_host (path : String) (question : Question) (desk : Desk Shelf) :
    (((Shelf.job path).ask question).on desk).2.host = ((Shelf.load path).on desk).2.host := by
  rw [Shelf.job, ask_jobOf]
  rcases (Shelf.load path).on desk with ⟨failure | cache, after⟩ <;> rfl

/-- A question leaves the files as they are. -/
theorem ask_files (path : String) (question : Question) (desk : Desk Shelf) :
    (((Shelf.job path).ask question).on desk).2.host.files = desk.host.files := by
  rw [ask_host, load_host]
  cases ((Shelf.load path).on desk).1 <;> rfl

/-- A question that fails leaves what was kept as it was. -/
theorem ask_cache {path : String} {question : Question} {desk : Desk Shelf} {failure : Failure}
    (h : (((Shelf.job path).ask question).on desk).1 = .error failure) :
    (((Shelf.job path).ask question).on desk).2.host.cache = desk.host.cache := by
  rw [ask_fst] at h
  rw [ask_host, load_host]
  cases hload : ((Shelf.load path).on desk).1 with
  | error _ => rfl
  | ok cache =>
    rw [hload] at h
    cases h

/-- A question keeps what holds between two steps. -/
theorem keepsReading_ask {desk : Desk Shelf} (h : KeepsReading path seen readings desk.host) (question : Question) :
    KeepsReading path seen (readings ++ loadReadings path desk)
      (((Shelf.job path).ask question).on desk).2.host := by
  rw [ask_host, load_host, loadReadings]
  cases hfile : desk.host.files.get? path with
  | none =>
    rw [load_of_missing hfile]
    simpa using h
  | some file =>
    by_cases hstamp : desk.host.cache.stamp? = some file.stamp
    · rw [load_of_kept hfile hstamp]
      simpa [hstamp] using h
    · rw [loadedFresh_of_changed hfile hstamp, loadedFresh_of_file hfile]
      simp only [if_neg hstamp]
      cases hhistory : file.history with
      | error failure =>
        exact ⟨h.current, by rw [lastComplete_append]; exact h.stamp, h.content⟩
      | ok history =>
        refine ⟨h.current, by rw [lastComplete_append]; rfl, fun stamp hkept => ?_⟩
        exact ⟨file, h.current file hfile, Option.some.inj hkept, hhistory⟩

/-- A step keeps what holds between two steps, with the version that it writes and the readings that it makes. -/
theorem keepsReading_perform {desk : Desk Shelf} (h : KeepsReading path seen readings desk.host) (step : HistoryStep) :
    KeepsReading path (seen ++ step.version?.toList) (readings ++ step.readings path desk)
      (step.perform path desk).host := by
  cases step with
  | rewrite file =>
    rw [HistoryStep.readings, List.append_nil]
    refine ⟨fun other hother => ?_, h.stamp, fun stamp hstamp => ?_⟩
    · rw [HistoryStep.perform, get?_write] at hother
      obtain rfl := Option.some.inj hother
      exact List.mem_append_right _ (List.mem_singleton_self _)
    · obtain ⟨version, hseen, hversion⟩ := h.content stamp hstamp
      exact ⟨version, List.mem_append_left _ hseen, hversion⟩
  | delete =>
    rw [HistoryStep.readings, List.append_nil]
    refine ⟨fun other hother => ?_, h.stamp, fun stamp hstamp => ?_⟩
    · rw [HistoryStep.perform, get?_delete] at hother
      cases hother
    · obtain ⟨version, hseen, hversion⟩ := h.content stamp hstamp
      exact ⟨version, List.mem_append_left _ hseen, hversion⟩
  | ask question =>
    have hask := keepsReading_ask h question
    simpa [HistoryStep.version?, HistoryStep.readings, HistoryStep.perform, readings_eq] using hask

/-- Steps keep what holds between them. -/
theorem keepsReading_afterSteps {desk : Desk Shelf} (h : KeepsReading path seen readings desk.host)
    (steps : List HistoryStep) :
    KeepsReading path (seen ++ steps.filterMap HistoryStep.version?) (readings ++ readingsOfSteps path desk steps)
      (afterSteps path desk steps).host := by
  induction steps generalizing desk seen readings with
  | nil => simpa [afterSteps, readingsOfSteps] using h
  | cons step rest ih =>
    have hrest := ih (keepsReading_perform h step)
    have hversions : (step :: rest).filterMap HistoryStep.version? =
        step.version?.toList ++ rest.filterMap HistoryStep.version? := by
      cases hversion : step.version? <;> simp [hversion]
    rw [afterSteps, readingsOfSteps, hversions, ← List.append_assoc, ← List.append_assoc]
    exact hrest

/-- Nothing was read yet of the versions that were seen. -/
theorem keepsReading_empty (files : FileStore) {seen : List StoredFile}
    (h : ∀ file, files.get? path = some file → file ∈ seen) : KeepsReading path seen [] ⟨files, .empty⟩ :=
  ⟨h, rfl, fun _ hstamp => by cases hstamp⟩

end StoredHistoryAux

open StoredHistoryAux

/-- The life of a stored job, which began when it had read nothing: its file was rewritten and deleted and it was asked
about, in any order, and the stamps tell the versions of the file apart. Then, for every question:
1. It gives the value or the failure that it gives about a job that has read nothing, beside the files as they are.
2. It leaves the files as they are, and if it fails, what was kept of them too: the stamp, the document and the runs.
3. It reads the file once if the stamp of the file is not that of the last reading that was completed, and else never.
4. The readings are entered beside the question itself, which they do not change. -/
theorem stored_history_transparent (path : String) (files : FileStore) (console : Console) (steps : List HistoryStep)
    (told : ∀ file ∈ versions path files steps, ∀ other ∈ versions path files steps,
      file.stamp = other.stamp → file.text = other.text) (question : Question) :
    let start : Desk Shelf := ⟨console, ⟨files, .empty⟩⟩
    let desk := afterSteps path start steps
    let asked := ((Shelf.job path).ask question).on desk
    (∀ other : Console, asked.1 = (((Shelf.job path).ask question).on ⟨other, ⟨desk.host.files, .empty⟩⟩).1) ∧
      asked.2.host.files = desk.host.files ∧
      (∀ failure, asked.1 = .error failure → asked.2.host.cache = desk.host.cache) ∧
      (Shelf.readings path desk question = match desk.host.files.get? path with
        | none => []
        | some file =>
          if lastComplete (readingsOfSteps path start steps) = some file.stamp then []
          else [⟨file.stamp, asked.1.isOk⟩]) ∧
      ∀ done, ((Shelf.jobJournaled path).ask question).on (desk.withJournal done) =
        (asked.1, asked.2.withJournal (done ++ Shelf.readings path desk question)) := by
  intro start desk asked
  have hempty : KeepsReading path (files.get? path).toList [] start.host :=
    keepsReading_empty files fun file hfile => by rw [hfile]; exact List.mem_singleton_self file
  have hkeeps : KeepsReading path (versions path files steps) (readingsOfSteps path start steps) desk.host :=
    keepsReading_afterSteps hempty steps
  have hanswer : asked.1 = ((Shelf.load path).on desk).1.map fun cache => answerOf path cache question :=
    ask_fst path question desk
  refine ⟨fun other => ?_, ask_files path question desk, fun failure hfailure => ask_cache hfailure, ?_, fun done => ?_⟩
  · have hfresh : KeepsReading path (versions path files steps) []
        (Desk.mk other (Shelf.mk desk.host.files .empty)).host :=
      keepsReading_empty desk.host.files hkeeps.current
    rw [hanswer, ask_fst, loadedFresh_of_keepsReading hkeeps told, loadedFresh_of_keepsReading hfresh told]
  · rw [readings_eq, loadReadings, hkeeps.stamp, hanswer]
    cases ((Shelf.load path).on desk).1 <;> rfl
  · rw [readings_eq]
    exact ask_jobJournaled path question desk done

/-- A version that was read, replaced by a malformed one, deleted and restored under its old stamp is told as it is. -/
theorem stored_history_transparent_of_restored :
    let version : StoredFile := ⟨"runs: [{number: 1}]", 1⟩
    let steps : List HistoryStep := [.rewrite version, .ask .history, .rewrite ⟨"- 1", 2⟩, .ask .name, .delete,
      .ask .history, .rewrite version]
    let desk := afterSteps "history.yml" ⟨default, ⟨[], .empty⟩⟩ steps
    desk.host.files = [("history.yml", version)] ∧
      (((Shelf.job "history.yml").ask .history).on desk).1 =
        (((Shelf.job "history.yml").ask .history).on ⟨default, ⟨[("history.yml", version)], .empty⟩⟩).1 := by
  intro version steps desk
  have told : ∀ file ∈ versions "history.yml" [] steps, ∀ other ∈ versions "history.yml" [] steps,
      file.stamp = other.stamp → file.text = other.text := by
    decide
  have hfiles : desk.host.files = [("history.yml", version)] := by
    simp [desk, steps, afterSteps, HistoryStep.perform, ask_files, FileStore.write, FileStore.delete]
  have htransparent := (stored_history_transparent "history.yml" [] default steps told .history).1 default
  exact ⟨hfiles, by rw [← hfiles]; exact htransparent⟩

end RunPicker
