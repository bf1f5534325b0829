import SpringAtlas.Finding.Scan
import SpringAtlas.Proofs.Outcome

/-!
# `Proofs.Finding.Scan` — findings name the file they were found in

Every detector reports the path of the file it was given. A scan of a corpus is the findings of its files, one file
after the other, and so every finding names a file of the corpus.

## Contents
* `InFile` — findings that name one file
* `scanFile_inFile` — every detector
* `scanCorpus_findings`, `scanCorpus_problems` — the scan as a list of files
* `scanCorpus_fileName`
-/

namespace SpringAtlas

/-- All the findings name the file. -/
def InFile (f : SourceFile) (found : List Finding) : Prop :=
  ∀ x ∈ found, x.fileName = f.path

namespace InFile

variable {f : SourceFile} {found more : List Finding}

/-- A detector that finds nothing. -/
theorem nil : InFile f [] := by
  intro x hx
  cases hx

/-- A detector that reports once, in the file. -/
theorem singleton {x : Finding} (h : x.fileName = f.path) : InFile f [x] := by
  intro y hy
  obtain rfl := List.mem_singleton.1 hy
  exact h

/-- Two detectors, one after the other. -/
theorem append (h : InFile f found) (hm : InFile f more) : InFile f (found ++ more) := by
  intro x hx
  rcases List.mem_append.1 hx with hx | hx
  · exact h x hx
  · exact hm x hx

theorem ite {c : Bool} (h : InFile f found) : InFile f (if c then found else []) := by
  split
  · exact h
  · exact nil

/-- A detector that reports every match, each in the file. -/
theorem map {ms : List Match} {report : Match → Finding} (h : ∀ m, (report m).fileName = f.path) :
    InFile f (ms.map report) := by
  intro x hx
  obtain ⟨m, -, rfl⟩ := List.mem_map.1 hx
  exact h m

/-- A detector that reports one match at most. -/
theorem toList {m : Option Match} {report : Match → Finding} (h : ∀ m, (report m).fileName = f.path) :
    InFile f (m.map report).toList := by
  cases m with
  | none => exact nil
  | some m => exact singleton (h m)

end InFile

/-! ## Detectors -/

theorem scanSource_inFile (f : SourceFile) : InFile f (scanSource f) := by
  -- one goal for each detector, in the order of the scan
  refine .append (.append (.append (.append (.append ?_ ?_) ?_) ?_) ?_) ?_
  · exact .map fun _ => rfl
  · exact .ite (.map fun _ => rfl)
  · exact .map fun _ => rfl
  · exact .map fun _ => rfl
  · show InFile f (missingAuthFindings f)
    dsimp only [missingAuthFindings]
    split
    · exact .nil
    · exact .toList fun _ => rfl
  · exact .toList fun _ => rfl

theorem consoleFindings_inFile [Yaml.Loader] {f : SourceFile} {found : List Finding}
    (h : consoleFindings f = .ok found) : InFile f found := by
  obtain ⟨es, -, h⟩ := bind_eq_ok.1 h
  cases h
  exact .append (.ite (.singleton rfl)) (.ite (.singleton rfl))

theorem scanSettings_inFile [Yaml.Loader] (f : SourceFile) : InFile f (scanSettings f).findings := by
  have hplain : InFile f (secretFindings f ++ debugFindings f) :=
    .append (.map fun _ => rfl) (.toList fun _ => rfl)
  dsimp only [scanSettings]
  split
  · next found hfound => exact .append hplain (consoleFindings_inFile hfound)
  · exact hplain

/-- Every finding of a file names it. -/
theorem scanFile_inFile [Yaml.Loader] (f : SourceFile) : InFile f (scanFile f).findings := by
  unfold scanFile
  split
  · exact scanSource_inFile f
  · exact scanSettings_inFile f

/-! ## Corpora -/

/-- Findings and problems are collected separately, each in the order of the files. -/
theorem foldl_scanFile [Yaml.Loader] (files : List SourceFile) (r : ScanResult) :
    files.foldl (fun r f => r ++ scanFile f) r =
      ⟨r.findings ++ files.flatMap fun f => (scanFile f).findings,
        r.problems ++ files.flatMap fun f => (scanFile f).problems⟩ := by
  induction files generalizing r with
  | nil => rw [List.foldl_nil, List.flatMap_nil, List.flatMap_nil, List.append_nil, List.append_nil]
  | cons f files ih =>
    rw [List.foldl_cons, ih, List.flatMap_cons, List.flatMap_cons, ← List.append_assoc, ← List.append_assoc]
    rfl

/-- The findings of a corpus are those of its scanned files, in order. -/
theorem scanCorpus_findings [Yaml.Loader] (c : Corpus) :
    (scanCorpus c).findings = (scannedFiles c).flatMap fun f => (scanFile f).findings :=
  congrArg ScanResult.findings (foldl_scanFile (scannedFiles c) {})

/-- The problems of a corpus are those of its scanned files, in order. -/
theorem scanCorpus_problems [Yaml.Loader] (c : Corpus) :
    (scanCorpus c).problems = (scannedFiles c).flatMap fun f => (scanFile f).problems :=
  congrArg ScanResult.problems (foldl_scanFile (scannedFiles c) {})

/-- **Every finding is in a file of the corpus.** -/
theorem scanCorpus_fileName [Yaml.Loader] {c : Corpus} {x : Finding} (h : x ∈ (scanCorpus c).findings) :
    ∃ f ∈ c.files, x.fileName = f.path := by
  rw [scanCorpus_findings] at h
  obtain ⟨f, hf, hx⟩ := List.mem_flatMap.1 h
  exact ⟨f, (List.mem_filter.1 hf).1, scanFile_inFile f x hx⟩

end SpringAtlas
