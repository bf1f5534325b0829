import SpringAtlas.Analysis.Summary
import SpringAtlas.Config.Basic
import SpringAtlas.Fact.Extract
import SpringAtlas.Finding.Scan
import SpringAtlas.Flow.Build
import SpringAtlas.Metrics.Basic
import SpringAtlas.Module.Map
import SpringAtlas.Relation.Build

/-!
# `Analysis.Run` — the analysis of a corpus

A run extracts the facts of all classes, then builds relations, findings, metrics, the service map and the data
flow from them. Failures in single files are recorded; a failure of the run as a whole, or a cancellation, leaves
no result. The run asks whether it has been cancelled once for every file and module it works on.

## Contents
* `RunError`, `Patience`, `Run` — polling for cancellation
* `Analysis` — the result of a run
* `analyze`
-/

namespace SpringAtlas

/-! ## Polling -/

/-- Why a run has no result. -/
inductive RunError where
  | cancelled
  | metrics (cause : MetricsError)
  | flow (cause : EdgeError)
  | settings (cause : Yaml.Fault)
deriving Repr, BEq, DecidableEq

/-- How many polls find the run not cancelled; without a number, all of them. -/
abbrev Patience := Option Nat

/-- A computation that counts its polls and may stop at one. -/
abbrev Run (α : Type) := StateT Nat (Except RunError) α

/-- Asks once whether the run has been cancelled. -/
def poll (patience : Patience) : Run Unit := fun used =>
  if patience.any fun n => n ≤ used then .error .cancelled else .ok ((), used + 1)

/-- A function applied to every item in order, with a poll before each. -/
def mapPolled {α β : Type} (patience : Patience) (f : α → β) : List α → Run (List β)
  | [] => pure []
  | x :: xs => do
    poll patience
    let y := f x
    return y :: (← mapPolled patience f xs)

/-- One poll for every item. -/
def pollAll {α : Type} (patience : Patience) (xs : List α) : Run Unit := do
  let _ ← mapPolled patience (fun _ => ()) xs

/-! ## Results -/

/-- Everything that a run found. -/
structure Analysis where
  runId : String
  corpusName : String
  timestamp : Timestamp
  facts : List ClassFact := []
  relations : List Relation := []
  modules : List BuildModule := []
  links : List Link := []
  findings : List Finding := []
  metrics : CodeMetrics := {}
  dataFlow : DataFlow := {}
  dependencies : List Dependency := []
  problems : List Problem := []
  topFindingLimit : Nat := 10
deriving Repr

namespace Analysis

/-- A result exists only of a run that went to its end. -/
def status : String :=
  "completed"

def endpoints (a : Analysis) : List Endpoint :=
  a.facts.flatMap ClassFact.endpoints

def summary (a : Analysis) : Summary :=
  summarize a.facts a.relations a.findings a.topFindingLimit

/-- The number of problems of a component. -/
def problemsOf (a : Analysis) (component : String) : Nat :=
  a.problems.countP fun p => p.component == component

def toJson (a : Analysis) : Json :=
  .obj [("run_id", .str a.runId), ("corpus_name", .str a.corpusName),
    ("timestamp", .str (a.timestamp.write "T")), ("status", .str status),
    ("classes", .arr (a.facts.map ClassFact.toJson)),
    ("endpoints", .arr (a.endpoints.map Endpoint.toJson)),
    ("relationships", .arr (a.relations.map Relation.toJson)),
    ("modules", .arr (a.modules.map BuildModule.toJson)),
    ("communications", .arr (a.links.map Link.toJson)),
    ("findings", .arr (a.findings.map Finding.toJson)), ("metrics", a.metrics.toJson),
    ("data_flow", a.dataFlow.toJson), ("dependencies", .arr (a.dependencies.map Dependency.toJson)),
    ("errors", .arr (a.problems.map Problem.toJson)), ("summary", a.summary.toJson)]

end Analysis

/-! ## Stages -/

/-- The fact of a file, or the problem that there is none. -/
def extractFile (limits : ExtractionLimits) (f : SourceFile) : Option ClassFact × List Problem :=
  match extract limits f.path f.chars with
  | .ok fact => (fact, [])
  | .error e =>
    (none, [.failedWith "extraction" "class fact extraction" e.message (some f.path)])

/-- The limits of extraction that a configuration sets. -/
def AnalyzerConfig.extraction (c : AnalyzerConfig) : ExtractionLimits :=
  ⟨c.maxEndpointPathLength, c.lookaheadLines⟩

/-- The problems that some files could not be read. -/
def skippedProblems (c : Corpus) : List Problem :=
  c.skipped.map fun path =>
    { component := "loader", message := "File could not be read or decoded", filePath := some path }

/-- Lifts a failure of a stage into one of the run. -/
def stage {ε α : Type} (wrap : ε → RunError) (x : Except ε α) : Run α := fun used =>
  match x with
  | .ok a => .ok (a, used)
  | .error e => .error (wrap e)

/-- The stages of an analysis, in order. -/
def analyzeStages [Yaml.Loader] (config : AnalyzerConfig) (corpus : Corpus) (runId : String)
    (timestamp : Timestamp) (patience : Patience) : Run Analysis := do
  let extracted ← mapPolled patience (extractFile config.extraction) corpus.javaFiles
  let facts := extracted.filterMap Prod.fst
  pollAll patience corpus.javaFiles
  let relations := relations (.ofFacts facts) config.lookaheadLines corpus
  pollAll patience (scannedFiles corpus)
  let scan := scanCorpus corpus
  pollAll patience corpus.javaFiles
  let metrics ← stage .metrics (codeMetrics corpus facts)
  let modules := detectModules config.maxWalkDepth corpus
  let described ← modules.mapM fun m => do
    poll patience
    stage .settings (describeIn corpus modules facts m)
  pollAll patience (linkedFiles corpus)
  let services := ServiceMap.ofModules corpus modules described facts
  let dataFlow ← stage .flow (dataFlow config.maxFlowPaths services.facts)
  return {
    runId, timestamp, relations, metrics, dataFlow
    corpusName := corpus.name
    facts := services.facts
    modules := services.modules
    links := services.links
    findings := scan.findings
    dependencies := services.dependencies
    problems := skippedProblems corpus ++ extracted.flatMap Prod.snd ++ scan.problems ++
      services.problems
    topFindingLimit := config.topFindings }

/-- The analysis of a corpus, and the number of polls it made. -/
def analyzePolled [Yaml.Loader] (config : AnalyzerConfig) (corpus : Corpus) (runId : String)
    (timestamp : Timestamp) (patience : Patience) : Except RunError (Analysis × Nat) :=
  (analyzeStages config corpus runId timestamp patience).run 0

/-- The analysis of a corpus that is not cancelled. -/
def analyze [Yaml.Loader] (config : AnalyzerConfig) (corpus : Corpus) (runId : String)
    (timestamp : Timestamp) : Except RunError Analysis := do
  return (← analyzePolled config corpus runId timestamp none).1

end SpringAtlas
