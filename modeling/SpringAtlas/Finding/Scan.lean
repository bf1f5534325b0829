import SpringAtlas.Finding.Settings
import SpringAtlas.Problem

/-!
# `Finding.Scan` — the findings of a corpus

Every source and settings file is scanned by the detectors that fit it. A detector that fails is recorded as a
problem, and the others still run.
-/

namespace SpringAtlas

/-- What a scan gives: findings and problems, each in the order of the files. -/
structure ScanResult where
  findings : List Finding := []
  problems : List Problem := []
deriving Repr, BEq

def ScanResult.append (a b : ScanResult) : ScanResult :=
  ⟨a.findings ++ b.findings, a.problems ++ b.problems⟩

instance : Append ScanResult := ⟨ScanResult.append⟩

def scanSource (f : SourceFile) : List Finding :=
  secretFindings f ++ sqlFindings f ++ commandFindings f ++ weakCryptoFindings f ++
  missingAuthFindings f ++ corsFindings f

def scanSettings [Yaml.Loader] (f : SourceFile) : ScanResult :=
  let plain := secretFindings f ++ debugFindings f
  match consoleFindings f with
  | .ok found => { findings := plain ++ found }
  | .error _ =>
    { findings := plain
      problems := [.failed "security" "exposed-consoles" (some f.path)] }

/-- The findings of one file. -/
def scanFile [Yaml.Loader] (f : SourceFile) : ScanResult :=
  if f.isJava then { findings := scanSource f } else scanSettings f

/-- The files that are scanned. -/
def scannedFiles (c : Corpus) : List SourceFile :=
  c.files.filter fun f => f.isJava || f.isConfig

def scanCorpus [Yaml.Loader] (c : Corpus) : ScanResult :=
  (scannedFiles c).foldl (fun r f => r ++ scanFile f) {}

end SpringAtlas
