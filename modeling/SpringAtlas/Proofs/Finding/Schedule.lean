import Mathlib.Data.List.Perm.Basic
import SpringAtlas.Proofs.Finding.Scan
import SpringAtlas.Yaml.Document

/-!
# `Proofs.Finding.Schedule` — scans whose tasks interleave

The files of a corpus can be scanned by several workers at once. Each file is a task that runs its detectors one by
one: what a detector finds stays with the task, and a failure goes to a list that all the tasks share. A *schedule*
says which task runs its next detector, step after step.

No step changes what the tasks have found and will find, or which problems are recorded and will be. So the findings
of a finished scan depend on no schedule. The problems are the same too, but they stand in the order in which they
were recorded: the order of the files for every schedule if and only if no two failures name different files.

## Contents
* `Detector`, `scanFile_eq` — the scan of a file as a row of detectors
* `ScanTask`, `ScanBoard` — tasks and the list they share, with `step`, `run` and `runOrder`
* `ScanBoard.agrees_step`, `ScanBoard.agrees_run` — what no schedule changes
* `ScanBoard.problems_runOrder` — what an order of whole tasks changes
* `problems_scanFile` — the files that fail
* `scanCorpus_scheduled`
-/

namespace SpringAtlas

namespace ScanResult

@[simp] theorem findings_append (a b : ScanResult) : (a ++ b).findings = a.findings ++ b.findings := rfl

@[simp] theorem problems_append (a b : ScanResult) : (a ++ b).problems = a.problems ++ b.problems := rfl

/-- The findings are the same list, and the problems are the same in some order. -/
structure Agrees (r r' : ScanResult) : Prop where
  findings : r.findings = r'.findings
  problems : r.problems.Perm r'.problems

/-- Every result agrees with itself. -/
theorem Agrees.refl (r : ScanResult) : r.Agrees r :=
  ⟨rfl, .refl _⟩

/-- Agreement goes from result to result. -/
theorem Agrees.trans {r r' r'' : ScanResult} (h : r.Agrees r') (h' : r'.Agrees r'') : r.Agrees r'' :=
  ⟨h.findings.trans h'.findings, h.problems.trans h'.problems⟩

end ScanResult

/-! ## Detectors -/

/-- One kind of weakness: its label, and how it is looked for in a file. -/
structure Detector where
  label : String
  detect : SourceFile → Except Yaml.Fault (List Finding)

namespace Detector

/-- A detector that does not fail. -/
def sure (label : String) (find : SourceFile → List Finding) : Detector :=
  ⟨label, fun f => .ok (find f)⟩

/-- A detector that fails finds nothing, and the failure is a problem of the file. -/
def scan (d : Detector) (f : SourceFile) : ScanResult :=
  match d.detect f with
  | .ok found => { findings := found }
  | .error _ => { problems := [.failed "security" d.label (some f.path)] }

end Detector

def sourceDetectors : List Detector :=
  [.sure "hardcoded-secret" secretFindings, .sure "sql-injection" sqlFindings,
   .sure "command-injection" commandFindings, .sure "weak-crypto" weakCryptoFindings,
   .sure "missing-auth" missingAuthFindings, .sure "cors" corsFindings]

def settingsDetectors [Yaml.Loader] : List Detector :=
  [.sure "hardcoded-secret" secretFindings, .sure "debug-enabled" debugFindings,
   ⟨"exposed-consoles", consoleFindings⟩]

def detectorsOf [Yaml.Loader] (f : SourceFile) : List Detector :=
  if f.isJava then sourceDetectors else settingsDetectors

/-- The results of some detectors on a file, one after the other. -/
def scanWith (f : SourceFile) : List Detector → ScanResult
  | [] => {}
  | d :: ds => d.scan f ++ scanWith f ds

/-- The scan of a file is the row of its detectors. -/
theorem scanFile_eq [Yaml.Loader] (f : SourceFile) : scanFile f = scanWith f (detectorsOf f) := by
  unfold scanFile detectorsOf
  split
  · show { findings := scanSource f } = scanWith f sourceDetectors
    rw [ScanResult.mk.injEq]
    simp [scanSource, scanWith, sourceDetectors, Detector.sure, Detector.scan]
  · show scanSettings f = scanWith f settingsDetectors
    unfold scanSettings
    cases hfound : consoleFindings f <;> rw [ScanResult.mk.injEq] <;>
      simp [scanWith, settingsDetectors, Detector.sure, Detector.scan, hfound]

/-! ## Tasks -/

/-- The scan of one file in progress: the detectors that are still to run, and what the others found. -/
structure ScanTask where
  file : SourceFile
  waiting : List Detector
  found : List Finding

namespace ScanTask

def ofFile [Yaml.Loader] (f : SourceFile) : ScanTask :=
  ⟨f, detectorsOf f, []⟩

/-- The task after its next detector. -/
def next (t : ScanTask) : ScanTask :=
  match t.waiting with
  | [] => t
  | d :: ds => { t with waiting := ds, found := t.found ++ (d.scan t.file).findings }

/-- The problems that the next detector reports. -/
def report (t : ScanTask) : List Problem :=
  match t.waiting with
  | [] => []
  | d :: _ => (d.scan t.file).problems

/-- The findings of the task once all of its detectors have run. -/
def outcome (t : ScanTask) : List Finding :=
  t.found ++ (scanWith t.file t.waiting).findings

/-- The problems that the task has still to report. -/
def owed (t : ScanTask) : List Problem :=
  (scanWith t.file t.waiting).problems

def finished (t : ScanTask) : ScanTask :=
  ⟨t.file, [], t.outcome⟩

theorem finished_finished (t : ScanTask) : t.finished.finished = t.finished := by
  simp [finished, outcome, scanWith]

/-- A task that has not started will find what the scan of its file finds. -/
theorem outcome_ofFile [Yaml.Loader] (f : SourceFile) : (ofFile f).outcome = (scanFile f).findings := by
  simp only [outcome, ofFile, scanFile_eq, List.nil_append]

/-- A task that has not started will report the problems of its file. -/
theorem owed_ofFile [Yaml.Loader] (f : SourceFile) : (ofFile f).owed = (scanFile f).problems := by
  simp only [owed, ofFile, scanFile_eq]

/-- A detector adds to what is found what it takes from what is still to be found. -/
theorem outcome_next (t : ScanTask) : t.next.outcome = t.outcome := by
  obtain ⟨f, _ | ⟨d, ds⟩, found⟩ := t
  · rfl
  · exact List.append_assoc ..

/-- A detector reports what it takes from what is still owed. -/
theorem report_append_owed (t : ScanTask) : t.report ++ t.next.owed = t.owed := by
  obtain ⟨f, _ | ⟨d, ds⟩, found⟩ := t <;> rfl

theorem outcome_of_waiting_nil {t : ScanTask} (h : t.waiting = []) : t.outcome = t.found := by
  unfold outcome
  rw [h]
  exact List.append_nil _

theorem owed_of_waiting_nil {t : ScanTask} (h : t.waiting = []) : t.owed = [] := by
  unfold owed
  rw [h]
  rfl

end ScanTask

/-! ## Boards -/

/-- The tasks of a scan by position, and the problems that they have reported so far. -/
structure ScanBoard where
  tasks : List ScanTask
  problems : List Problem

namespace ScanBoard

def start [Yaml.Loader] (files : List SourceFile) : ScanBoard :=
  ⟨files.map .ofFile, []⟩

/-- The task at a position runs its next detector. -/
def step (b : ScanBoard) (i : Nat) : ScanBoard :=
  match b.tasks[i]? with
  | none => b
  | some t => ⟨b.tasks.set i t.next, b.problems ++ t.report⟩

/-- The tasks run as a schedule says. -/
def run (b : ScanBoard) (schedule : List Nat) : ScanBoard :=
  schedule.foldl step b

/-- The task at a position runs to its end. -/
def finish (b : ScanBoard) (i : Nat) : ScanBoard :=
  match b.tasks[i]? with
  | none => b
  | some t => b.run (List.replicate t.waiting.length i)

/-- Whole tasks run one after the other. -/
def runOrder (b : ScanBoard) (order : List Nat) : ScanBoard :=
  order.foldl finish b

/-- All detectors have run. -/
def Done (b : ScanBoard) : Prop :=
  ∀ t ∈ b.tasks, t.waiting = []

/-- The findings by position, and the problems as they were reported. -/
def result (b : ScanBoard) : ScanResult :=
  ⟨b.tasks.flatMap ScanTask.found, b.problems⟩

/-- What the board has, and what its tasks will add in order of position. -/
def expected (b : ScanBoard) : ScanResult :=
  ⟨b.tasks.flatMap ScanTask.outcome, b.problems ++ b.tasks.flatMap ScanTask.owed⟩

variable {b : ScanBoard}

theorem Done.result_eq (h : b.Done) : b.result = b.expected := by
  have hfound : b.tasks.flatMap ScanTask.outcome = b.tasks.flatMap ScanTask.found :=
    List.flatMap_congr fun t ht => ScanTask.outcome_of_waiting_nil (h t ht)
  have howed : b.tasks.flatMap ScanTask.owed = [] :=
    List.flatMap_eq_nil_iff.2 fun t ht => ScanTask.owed_of_waiting_nil (h t ht)
  unfold result expected
  rw [hfound, howed, List.append_nil]

/-! ### What no schedule changes -/

/-- A step leaves the board as it is, or moves one task on and adds the problems it reports. -/
theorem step_cases (b : ScanBoard) (i : Nat) :
    b.step i = b ∨ ∃ before t after, b.tasks = before ++ t :: after ∧
      b.step i = ⟨before ++ t.next :: after, b.problems ++ t.report⟩ := by
  cases ht : b.tasks[i]? with
  | none =>
    left
    simp only [step, ht]
  | some t =>
    right
    obtain ⟨hi, hget⟩ := List.getElem?_eq_some_iff.1 ht
    refine ⟨b.tasks.take i, t, b.tasks.drop (i + 1), ?_, ?_⟩
    · rw [← hget, List.getElem_cons_drop, List.take_append_drop]
    · simp only [step, ht]
      rw [List.set_eq_take_append_cons_drop, if_pos hi]

/-- **A step changes nothing of what the scan will give**, but for the order of the problems. -/
theorem agrees_step (b : ScanBoard) (i : Nat) : (b.step i).expected.Agrees b.expected := by
  obtain hsame | ⟨before, t, after, htasks, hstep⟩ := b.step_cases i
  · rw [hsame]
    exact .refl _
  · rw [hstep]
    constructor
    · show List.flatMap _ _ = List.flatMap _ _
      rw [htasks, List.flatMap_append, List.flatMap_append, List.flatMap_cons, List.flatMap_cons, t.outcome_next]
    · -- the report moves in front of what the tasks before it still owe
      show (b.problems ++ t.report ++ (before ++ t.next :: after).flatMap ScanTask.owed).Perm
        (b.problems ++ b.tasks.flatMap ScanTask.owed)
      rw [htasks, List.flatMap_append, List.flatMap_append, List.flatMap_cons, List.flatMap_cons,
        ← t.report_append_owed, List.append_assoc, List.append_assoc]
      exact (List.perm_append_comm_assoc ..).append_left _

/-- **No schedule changes what the scan will give**, but for the order of the problems. -/
theorem agrees_run (b : ScanBoard) (schedule : List Nat) : (b.run schedule).expected.Agrees b.expected := by
  induction schedule generalizing b with
  | nil => exact .refl _
  | cons i schedule ih => exact (ih (b.step i)).trans (b.agrees_step i)

/-! ### Whole tasks -/

/-- A whole task is a part of a schedule. -/
theorem finish_eq_run (b : ScanBoard) (i : Nat) : ∃ schedule, b.finish i = b.run schedule := by
  unfold finish
  split
  · exact ⟨[], rfl⟩
  · exact ⟨_, rfl⟩

/-- An order of whole tasks is a schedule. -/
theorem runOrder_eq_run (b : ScanBoard) (order : List Nat) : ∃ schedule, b.runOrder order = b.run schedule := by
  induction order generalizing b with
  | nil => exact ⟨[], rfl⟩
  | cons i order ih =>
    obtain ⟨first, hfirst⟩ := b.finish_eq_run i
    obtain ⟨others, hothers⟩ := ih (b.finish i)
    refine ⟨first ++ others, ?_⟩
    show (b.finish i).runOrder order = b.run (first ++ others)
    rw [hothers, hfirst, run, run, run, List.foldl_append]

/-- As many steps of one task as it has detectors left. -/
theorem run_replicate {i : Nat} {t : ScanTask} (ht : b.tasks[i]? = some t) :
    b.run (List.replicate t.waiting.length i) = ⟨b.tasks.set i t.finished, b.problems ++ t.owed⟩ := by
  obtain ⟨f, waiting, found⟩ := t
  induction waiting generalizing b found with
  | nil =>
    obtain ⟨hi, hget⟩ := List.getElem?_eq_some_iff.1 ht
    show b = ⟨b.tasks.set i ⟨f, [], found ++ []⟩, b.problems ++ []⟩
    rw [List.append_nil, List.append_nil, ← hget, List.set_getElem_self]
  | cons d ds ih =>
    have hi : i < b.tasks.length := (List.getElem?_eq_some_iff.1 ht).1
    have hstep : b.step i =
        ⟨b.tasks.set i ⟨f, ds, found ++ (d.scan f).findings⟩, b.problems ++ (d.scan f).problems⟩ := by
      simp only [step, ht]
      rfl
    have hget : (b.step i).tasks[i]? = some ⟨f, ds, found ++ (d.scan f).findings⟩ := by
      rw [hstep, List.getElem?_set_self hi]
    show (b.step i).run (List.replicate ds.length i) = _
    rw [ih _ hget, hstep, List.set_set, ← ScanTask.report_append_owed ⟨f, d :: ds, found⟩, ← List.append_assoc]
    simp only [ScanTask.finished, ← ScanTask.outcome_next ⟨f, d :: ds, found⟩]
    rfl

theorem finish_of_getElem? {i : Nat} {t : ScanTask} (ht : b.tasks[i]? = some t) :
    b.finish i = ⟨b.tasks.set i t.finished, b.problems ++ t.owed⟩ := by
  rw [← run_replicate ht]
  simp only [finish, ht]

/-- The problems that the task at a position has still to report. -/
def owedAt (b : ScanBoard) (i : Nat) : List Problem :=
  (b.tasks[i]?).elim [] ScanTask.owed

theorem problems_finish (b : ScanBoard) (i : Nat) : (b.finish i).problems = b.problems ++ b.owedAt i := by
  cases ht : b.tasks[i]? with
  | none => simp only [finish, owedAt, ht, Option.elim_none, List.append_nil]
  | some t => simp only [finish_of_getElem? ht, owedAt, ht, Option.elim_some]

theorem getElem?_finish (b : ScanBoard) (i j : Nat) :
    (b.finish i).tasks[j]? = b.tasks[j]?.map fun t => if j = i then t.finished else t := by
  cases ht : b.tasks[i]? with
  | none =>
    have hsame : b.finish i = b := by simp only [finish, ht]
    rw [hsame]
    by_cases hj : j = i
    · rw [hj, ht, Option.map_none]
    · simp only [if_neg hj, Option.map_id']
  | some t =>
    obtain ⟨hi, -⟩ := List.getElem?_eq_some_iff.1 ht
    rw [finish_of_getElem? ht]
    by_cases hj : j = i
    · rw [hj, List.getElem?_set_self hi, ht, Option.map_some, if_pos rfl]
    · simp only [if_neg hj, Option.map_id', List.getElem?_set_ne (Ne.symm hj)]

theorem getElem?_runOrder (b : ScanBoard) (order : List Nat) (j : Nat) :
    (b.runOrder order).tasks[j]? = b.tasks[j]?.map fun t => if j ∈ order then t.finished else t := by
  induction order generalizing b with
  | nil => simp [runOrder]
  | cons i order ih =>
    show ((b.finish i).runOrder order).tasks[j]? = _
    rw [ih, getElem?_finish, Option.map_map]
    congr 1
    funext t
    by_cases hi : j = i
    · simp [hi, ScanTask.finished_finished]
    · simp [hi]

/-- An order that leaves no task out finishes all of them. -/
theorem done_runOrder {order : List Nat} (h : ∀ i < b.tasks.length, i ∈ order) : (b.runOrder order).Done := by
  intro t ht
  obtain ⟨j, hj⟩ := List.mem_iff_getElem?.1 ht
  rw [getElem?_runOrder] at hj
  obtain ⟨t₀, ht₀, rfl⟩ := Option.map_eq_some_iff.1 hj
  rw [if_pos (h j (List.getElem?_eq_some_iff.1 ht₀).1)]
  rfl

/-- The problems stand in the order in which the tasks ran. -/
theorem problems_runOrder {order : List Nat} (h : order.Nodup) :
    (b.runOrder order).problems = b.problems ++ order.flatMap b.owedAt := by
  induction order generalizing b with
  | nil => exact (List.append_nil _).symm
  | cons i order ih =>
    obtain ⟨hi, hnodup⟩ := List.nodup_cons.1 h
    have hothers : order.flatMap (b.finish i).owedAt = order.flatMap b.owedAt := by
      apply List.flatMap_congr
      intro j hj
      have hne : j ≠ i := fun hji => hi (hji ▸ hj)
      simp only [owedAt, getElem?_finish, if_neg hne, Option.map_id']
    show ((b.finish i).runOrder order).problems = _
    rw [ih hnodup, hothers, problems_finish, List.flatMap_cons, List.append_assoc]

end ScanBoard

/-! ## Files that fail -/

namespace SourceFile

/-- A settings file whose text has a fault. -/
def Unreadable [Yaml.Loader] (f : SourceFile) : Prop :=
  f.isJava = false ∧ ∃ fault, (Settings.fileEntries f).2 = some fault

/-- The problem that is recorded for such a file. -/
def consoleProblem (f : SourceFile) : Problem :=
  .failed "security" "exposed-consoles" (some f.path)

variable {f g : SourceFile}

theorem consoleProblem_inj : f.consoleProblem = g.consoleProblem ↔ f.path = g.path := by
  simp [consoleProblem, Problem.failed]

end SourceFile

theorem consoleFindings_eq_error_iff [Yaml.Loader] {f : SourceFile} :
    (∃ fault, consoleFindings f = .error fault) ↔ ∃ fault, (Settings.fileEntries f).2 = some fault := by
  unfold consoleFindings plainEntries
  obtain ⟨found, _ | fault⟩ := Settings.fileEntries f
  · simp [bind, Except.bind, pure, Except.pure]
  · simp [bind, Except.bind]

theorem problems_scanSettings [Yaml.Loader] (f : SourceFile) :
    (∃ fault, consoleFindings f = .error fault) ∧ (scanSettings f).problems = [f.consoleProblem] ∨
      (¬ ∃ fault, consoleFindings f = .error fault) ∧ (scanSettings f).problems = [] := by
  unfold scanSettings
  cases consoleFindings f with
  | ok found =>
    refine .inr ⟨?_, rfl⟩
    rintro ⟨fault, h⟩
    cases h
  | error fault => exact .inl ⟨⟨fault, rfl⟩, rfl⟩

/-- A file gives one problem if it cannot be read, and else none. -/
theorem problems_scanFile [Yaml.Loader] (f : SourceFile) :
    f.Unreadable ∧ (scanFile f).problems = [f.consoleProblem] ∨ ¬ f.Unreadable ∧ (scanFile f).problems = [] := by
  unfold scanFile SourceFile.Unreadable
  rw [← consoleFindings_eq_error_iff]
  by_cases hjava : f.isJava = true
  · rw [if_pos hjava]
    exact .inr ⟨fun h => absurd (hjava.symm.trans h.1) Bool.noConfusion, rfl⟩
  · rw [if_neg hjava, eq_false_of_ne_true hjava]
    simpa only [true_and] using problems_scanSettings f

/-! ## Corpora -/

theorem flatMap_range_getElem? {α β : Type} (xs : List α) (g : α → List β) :
    (List.range xs.length).flatMap (fun i => xs[i]?.elim [] g) = xs.flatMap g := by
  induction xs with
  | nil => rfl
  | cons x xs ih =>
    rw [List.length_cons, List.range_succ_eq_map, List.flatMap_cons, List.flatMap_map, List.flatMap_cons, ← ih]
    rfl

namespace Corpus

variable [Yaml.Loader] {c : Corpus}

/-- The board of a scan that has not started. -/
def scanBoard (c : Corpus) : ScanBoard :=
  .start (scannedFiles c)

/-- The problems of the scanned file at a position. -/
def problemsAt (c : Corpus) (i : Nat) : List Problem :=
  ((scannedFiles c)[i]?).elim [] fun f => (scanFile f).problems

/-- The scan gives one result for every schedule that runs all detectors. -/
def ScheduleIndependent (c : Corpus) : Prop :=
  ∀ schedule, (c.scanBoard.run schedule).Done → (c.scanBoard.run schedule).result = scanCorpus c

/-- The scan gives one result for every order of its tasks. -/
def OrderIndependent (c : Corpus) : Prop :=
  ∀ order, order.Perm (List.range (scannedFiles c).length) → (c.scanBoard.runOrder order).result = scanCorpus c

/-- The scanned files that cannot be read have one path, so there is at most one if paths are distinct. -/
def FailsAtOnePath (c : Corpus) : Prop :=
  ∀ f ∈ scannedFiles c, ∀ g ∈ scannedFiles c, f.Unreadable → g.Unreadable → f.path = g.path

theorem expected_scanBoard (c : Corpus) : c.scanBoard.expected = scanCorpus c := by
  have h := foldl_scanFile (scannedFiles c) {}
  show ScanResult.mk _ _ = _
  simp only [scanBoard, ScanBoard.start, List.flatMap_map, ScanTask.outcome_ofFile, ScanTask.owed_ofFile]
  exact h.symm

theorem owedAt_scanBoard (c : Corpus) : c.scanBoard.owedAt = c.problemsAt := by
  funext i
  simp only [ScanBoard.owedAt, scanBoard, ScanBoard.start, problemsAt, List.getElem?_map]
  cases (scannedFiles c)[i]? with
  | none => rfl
  | some f => exact ScanTask.owed_ofFile f

theorem agrees_of_done {schedule : List Nat} (h : (c.scanBoard.run schedule).Done) :
    (c.scanBoard.run schedule).result.Agrees (scanCorpus c) := by
  rw [h.result_eq, ← expected_scanBoard]
  exact ScanBoard.agrees_run ..

theorem done_of_perm_range {order : List Nat} (h : order.Perm (List.range (scannedFiles c).length)) :
    (c.scanBoard.runOrder order).Done := by
  apply ScanBoard.done_runOrder
  intro i hi
  rw [scanBoard, ScanBoard.start, List.length_map] at hi
  exact h.mem_iff.2 (List.mem_range.2 hi)

/-- Whole tasks in any order: the findings of the corpus, and the problems in the order of the tasks. -/
theorem result_runOrder {order : List Nat} (h : order.Perm (List.range (scannedFiles c).length)) :
    (c.scanBoard.runOrder order).result = ⟨(scanCorpus c).findings, order.flatMap c.problemsAt⟩ := by
  have hdone := done_of_perm_range h
  have hproblems : (c.scanBoard.runOrder order).problems = order.flatMap c.problemsAt := by
    rw [ScanBoard.problems_runOrder (h.nodup_iff.2 List.nodup_range), owedAt_scanBoard]
    rfl
  obtain ⟨schedule, hrun⟩ := c.scanBoard.runOrder_eq_run order
  rw [hrun] at hdone hproblems ⊢
  rw [ScanResult.mk.injEq]
  exact ⟨(agrees_of_done hdone).findings, hproblems⟩

theorem mem_problems {p : Problem} :
    p ∈ (scanCorpus c).problems ↔ ∃ f ∈ scannedFiles c, f.Unreadable ∧ p = f.consoleProblem := by
  rw [scanCorpus_problems, List.mem_flatMap]
  apply exists_congr
  intro f
  obtain ⟨hf, hproblems⟩ | ⟨hf, hproblems⟩ := problems_scanFile f <;> simp [hf, hproblems]

/-- Tasks in the order of the files: the scan of the corpus itself. -/
theorem result_runOrder_range (c : Corpus) :
    (c.scanBoard.runOrder (List.range (scannedFiles c).length)).result = scanCorpus c := by
  rw [result_runOrder (.refl _), ScanResult.mk.injEq, scanCorpus_problems]
  exact ⟨rfl, flatMap_range_getElem? ..⟩

/-- A file that fails has its problem first in the list when its task runs first. -/
theorem head?_problems (h : c.OrderIndependent) {f : SourceFile} (hf : f ∈ scannedFiles c) (hun : f.Unreadable) :
    (scanCorpus c).problems.head? = some f.consoleProblem := by
  obtain ⟨i, hi⟩ := List.mem_iff_getElem?.1 hf
  have hmem : i ∈ List.range (scannedFiles c).length :=
    List.mem_range.2 (List.getElem?_eq_some_iff.1 hi).1
  have hperm := (List.perm_cons_erase hmem).symm
  have hfirst : c.problemsAt i = [f.consoleProblem] := by
    obtain ⟨-, hproblems⟩ | ⟨hnot, -⟩ := problems_scanFile f
    · simp only [problemsAt, hi, Option.elim_some, hproblems]
    · exact absurd hun hnot
  have hresult := h _ hperm
  rw [result_runOrder hperm, List.flatMap_cons, hfirst] at hresult
  rw [← hresult]
  rfl

theorem FailsAtOnePath.of_orderIndependent (h : c.OrderIndependent) : c.FailsAtOnePath := by
  intro f hf g hg hfun hgun
  have hsame := (head?_problems h hf hfun).symm.trans (head?_problems h hg hgun)
  exact SourceFile.consoleProblem_inj.1 (Option.some.inj hsame)

/-- Equal problems cannot be told apart by their order. -/
theorem ScheduleIndependent.of_failsAtOnePath (h : c.FailsAtOnePath) : c.ScheduleIndependent := by
  intro schedule hdone
  obtain ⟨hfindings, hproblems⟩ := agrees_of_done hdone
  have hequal : ∀ p ∈ (scanCorpus c).problems, ∀ q ∈ (scanCorpus c).problems, p = q := by
    intro p hp q hq
    obtain ⟨f, hf, hfun, rfl⟩ := mem_problems.1 hp
    obtain ⟨g, hg, hgun, rfl⟩ := mem_problems.1 hq
    exact SourceFile.consoleProblem_inj.2 (h f hf g hg hfun hgun)
  have hany : ∀ l : List Problem, l.Pairwise fun _ _ => True := fun l => List.pairwise_of_forall fun _ _ => trivial
  rw [ScanResult.mk.injEq]
  refine ⟨hfindings, hproblems.eq_of_pairwise ?_ (hany _) (hany _)⟩
  intro p q hp hq _ _
  exact hequal p (hproblems.mem_iff.1 hp) q hq

theorem OrderIndependent.of_scheduleIndependent (h : c.ScheduleIndependent) : c.OrderIndependent := by
  intro order hperm
  have hdone := done_of_perm_range hperm
  obtain ⟨schedule, hrun⟩ := c.scanBoard.runOrder_eq_run order
  rw [hrun] at hdone ⊢
  exact h schedule hdone

end Corpus

/-- **What a schedule can change.** Every schedule that runs all detectors gives the findings of the corpus, and its
    problems in some order; tasks that run one after the other give the problems in the order of the tasks. Every
    schedule, and every order of tasks, gives the result of the scan in the order of the files if and only if the
    files that fail have one path. -/
theorem scanCorpus_scheduled [Yaml.Loader] (c : Corpus) :
    (∀ schedule, (c.scanBoard.run schedule).Done →
      (c.scanBoard.run schedule).result.Agrees (scanCorpus c)) ∧
    (∀ order, order.Perm (List.range (scannedFiles c).length) →
      (c.scanBoard.runOrder order).Done ∧
      (c.scanBoard.runOrder order).result = ⟨(scanCorpus c).findings, order.flatMap c.problemsAt⟩) ∧
    (c.scanBoard.runOrder (List.range (scannedFiles c).length)).result = scanCorpus c ∧
    (c.ScheduleIndependent ↔ c.FailsAtOnePath) ∧ (c.OrderIndependent ↔ c.FailsAtOnePath) := by
  have hpath : c.ScheduleIndependent → c.FailsAtOnePath := fun h => .of_orderIndependent (.of_scheduleIndependent h)
  have horder : c.FailsAtOnePath → c.OrderIndependent := fun h => .of_scheduleIndependent (.of_failsAtOnePath h)
  refine ⟨?_, ?_, c.result_runOrder_range, ⟨hpath, .of_failsAtOnePath⟩, ⟨.of_orderIndependent, horder⟩⟩
  · intro schedule hdone
    exact Corpus.agrees_of_done hdone
  · intro order hperm
    exact ⟨Corpus.done_of_perm_range hperm, Corpus.result_runOrder hperm⟩

/-- Two settings files whose text has a fault. -/
def twoUnreadable : Corpus :=
  .ofFiles [⟨"a.yml", "a: ["⟩, ⟨"b.yml", "a: ["⟩] [] "root" []

/-- When the task of the second file runs first, its problem stands first. -/
theorem not_orderIndependent_twoUnreadable : ¬ twoUnreadable.OrderIndependent := by
  intro h
  have hperm : [1, 0].Perm (List.range (scannedFiles twoUnreadable).length) := by decide +kernel
  have hswapped : (twoUnreadable.scanBoard.runOrder [1, 0]).problems =
      [.failed "security" "exposed-consoles" (some "b.yml"),
       .failed "security" "exposed-consoles" (some "a.yml")] := by decide +kernel
  have hinOrder : (scanCorpus twoUnreadable).problems =
      [.failed "security" "exposed-consoles" (some "a.yml"),
       .failed "security" "exposed-consoles" (some "b.yml")] := by decide +kernel
  have hsame := congrArg ScanResult.problems (h [1, 0] hperm)
  rw [hinOrder] at hsame
  exact absurd (hswapped.symm.trans hsame) (by decide)

end SpringAtlas
