import SpringAtlas.Proofs.Fact.Extract
import SpringAtlas.Proofs.Module.Map

/-!
# `Proofs.Analysis.Run` — what a finished run has made

A run polls for cancellation between its steps, and a poll either stops the run or changes nothing but the count. So a
run that ends has made what its stages make without polls. `Stages` holds what the stages make, with the proofs that
they made it, and `analyze_eq_ok` says that these are exactly the results of runs; what is said about results later is
derived from it.

## Contents
* `run_bind_eq_ok`, `stage_eq_ok` — taking runs apart
* `mapPolled_eq_ok`, `mapM_stage_eq_ok` — polled traversals are plain ones
* `mapPolled_none`, `mapM_stage_none` — without a cancellation they end
* `Stages`, `exists_stages` — what stages make, and when there is such a thing
* `Stages.result`, `analyze_eq_ok` — the results of runs
-/

namespace SpringAtlas

variable {ε α β : Type} {used used' : Nat}

/-! ## Steps -/

/-- Two steps of a run have a result if the first has one and the second has one from there, polls included. -/
theorem run_bind_eq_ok {x : Run α} {f : α → Run β} {b : β} :
    (x >>= f) used = .ok (b, used') ↔ ∃ a mid, x used = .ok (a, mid) ∧ f a mid = .ok (b, used') := by
  constructor
  · intro h
    obtain ⟨⟨a, mid⟩, hx, hf⟩ := bind_eq_ok.1 h
    exact ⟨a, mid, hx, hf⟩
  · rintro ⟨a, mid, hx, hf⟩
    exact bind_eq_ok.2 ⟨(a, mid), hx, hf⟩

theorem run_pure_eq_ok {a b : α} (h : (pure a : Run α) used = .ok (b, used')) : b = a := by
  cases h
  rfl

/-- A stage of a run gives what it lifts. -/
theorem stage_eq_ok {wrap : ε → RunError} {x : Except ε α} {a : α} (h : stage wrap x used = .ok (a, used')) :
    x = .ok a := by
  cases x with
  | error e => cases h
  | ok a' =>
    cases h
    rfl

/-! ## Traversals -/

/-- A polled traversal that ends has gone through all items. -/
theorem mapPolled_eq_ok {patience : Patience} {f : α → β} {xs : List α} {ys : List β}
    (h : mapPolled patience f xs used = .ok (ys, used')) : ys = xs.map f := by
  induction xs generalizing ys used used' with
  | nil => exact run_pure_eq_ok h
  | cons x xs ih =>
    obtain ⟨-, _, -, h⟩ := run_bind_eq_ok.1 h
    obtain ⟨zs, _, hzs, h⟩ := run_bind_eq_ok.1 h
    rw [run_pure_eq_ok h, ih hzs, List.map_cons]

/-- A traversal by a stage that polls before each item gives what the stage gives without polls. -/
theorem mapM_stage_eq_ok {patience : Patience} {wrap : ε → RunError} {f : α → Except ε β} {xs : List α} {ys : List β}
    (h : (xs.mapM fun x => do
      poll patience
      stage wrap (f x)) used = .ok (ys, used')) : xs.mapM f = .ok ys := by
  induction xs generalizing ys used used' with
  | nil =>
    rw [run_pure_eq_ok h]
    rfl
  | cons x xs ih =>
    rw [List.mapM_cons] at h
    obtain ⟨y, _, hy, h⟩ := run_bind_eq_ok.1 h
    obtain ⟨zs, _, hzs, h⟩ := run_bind_eq_ok.1 h
    obtain ⟨-, _, -, hy⟩ := run_bind_eq_ok.1 hy
    rw [run_pure_eq_ok h, List.mapM_cons, stage_eq_ok hy, ih hzs]
    rfl

/-! ## Runs that are not cancelled -/

/-- Without a cancellation a polled traversal ends, with one poll for every item. -/
theorem mapPolled_none (f : α → β) (xs : List α) : mapPolled none f xs used = .ok (xs.map f, used + xs.length) := by
  induction xs generalizing used with
  | nil => rfl
  | cons x xs ih =>
    refine run_bind_eq_ok.2 ⟨(), used + 1, rfl, run_bind_eq_ok.2 ⟨_, _, ih, ?_⟩⟩
    rw [List.length_cons, Nat.add_assoc, Nat.add_comm 1]
    rfl

theorem pollAll_none (xs : List α) : pollAll none xs used = .ok ((), used + xs.length) :=
  run_bind_eq_ok.2 ⟨_, _, mapPolled_none _ xs, rfl⟩

theorem stage_ok {wrap : ε → RunError} {x : Except ε α} {a : α} (h : x = .ok a) : stage wrap x used = .ok (a, used) := by
  rw [h]
  rfl

theorem mapM_stage_none {wrap : ε → RunError} {f : α → Except ε β} {xs : List α} {ys : List β}
    (h : xs.mapM f = .ok ys) :
    (xs.mapM fun x => do
      poll none
      stage wrap (f x)) used = .ok (ys, used + xs.length) := by
  induction xs generalizing ys used with
  | nil =>
    cases h
    rfl
  | cons x xs ih =>
    rw [List.mapM_cons] at h ⊢
    obtain ⟨y, hy, h⟩ := bind_eq_ok.1 h
    obtain ⟨zs, hzs, h⟩ := bind_eq_ok.1 h
    cases h
    have hstep : (do poll none; stage wrap (f x) : Run β) used = .ok (y, used + 1) :=
      run_bind_eq_ok.2 ⟨(), used + 1, rfl, stage_ok hy⟩
    refine run_bind_eq_ok.2 ⟨y, used + 1, hstep, run_bind_eq_ok.2 ⟨zs, _, ih hzs, ?_⟩⟩
    rw [List.length_cons, Nat.add_assoc, Nat.add_comm 1]
    rfl

/-! ## Results -/

section Results

variable [Yaml.Loader] {config : AnalyzerConfig} {corpus : Corpus} {runId : String} {timestamp : Timestamp}
  {a : Analysis}

/-- What the stages of a run make of a corpus. -/
structure Stages (config : AnalyzerConfig) (corpus : Corpus) where
  services : ServiceMap
  metrics : CodeMetrics
  flow : DataFlow
  services_eq : mapServices config.maxWalkDepth corpus (extractedFacts config.extraction corpus) = .ok services
  metrics_eq : codeMetrics corpus (extractedFacts config.extraction corpus) = .ok metrics
  flow_eq : dataFlow config.maxFlowPaths services.facts = .ok flow

/-- The stages of a run succeed if services, metrics and the graph can be made; what is seen of the services is then
    what is seen of them in the run. -/
theorem exists_stages (config : AnalyzerConfig) {view : ServiceMap → α} {value : α}
    (hservices : (mapServices config.maxWalkDepth corpus
      (extractedFacts config.extraction corpus)).toOption.map view = some value)
    (hmetrics : (codeMetrics corpus (extractedFacts config.extraction corpus)).toOption.isSome)
    (hflow : (dataFlow config.maxFlowPaths (assignModules (detectModules config.maxWalkDepth corpus)
      (extractedFacts config.extraction corpus))).toOption.isSome) :
    ∃ s : Stages config corpus, view s.services = value := by
  obtain ⟨services, hs, hview⟩ := Option.map_eq_some_iff.1 hservices
  obtain ⟨metrics, hm⟩ := Option.isSome_iff_exists.1 hmetrics
  obtain ⟨flow, hf⟩ := Option.isSome_iff_exists.1 hflow
  rw [toOption_eq_some] at hs hm hf
  -- the graph is made of the facts that the map has placed
  obtain ⟨described, -, rfl⟩ := mapServices_eq_ok.1 hs
  exact ⟨⟨_, metrics, flow, hs, hm, hf⟩, hview⟩

/-- What a run reports about its stages. -/
def Stages.result (s : Stages config corpus) (runId : String) (timestamp : Timestamp) : Analysis where
  runId := runId
  corpusName := corpus.name
  timestamp := timestamp
  facts := s.services.facts
  relations := relations (.ofFacts (extractedFacts config.extraction corpus)) config.lookaheadLines corpus
  modules := s.services.modules
  links := s.services.links
  findings := (scanCorpus corpus).findings
  metrics := s.metrics
  dataFlow := s.flow
  dependencies := s.services.dependencies
  problems := skippedProblems corpus ++ (corpus.javaFiles.map (extractFile config.extraction)).flatMap Prod.snd ++
    (scanCorpus corpus).problems ++ s.services.problems
  topFindingLimit := config.topFindings

/-- A run that ends has gone through all stages, whenever it would have been cancelled. -/
theorem analyzeStages_eq_ok {patience : Patience}
    (h : analyzeStages config corpus runId timestamp patience used = .ok (a, used')) :
    ∃ s : Stages config corpus, a = s.result runId timestamp := by
  unfold analyzeStages at h
  obtain ⟨extracted, _, hextracted, h⟩ := run_bind_eq_ok.1 h
  obtain rfl := mapPolled_eq_ok hextracted
  -- relations and findings are only polled for
  obtain ⟨-, _, -, h⟩ := run_bind_eq_ok.1 h
  obtain ⟨-, _, -, h⟩ := run_bind_eq_ok.1 h
  obtain ⟨-, _, -, h⟩ := run_bind_eq_ok.1 h
  obtain ⟨metrics, _, hmetrics, h⟩ := run_bind_eq_ok.1 h
  obtain ⟨described, _, hdescribed, h⟩ := run_bind_eq_ok.1 h
  obtain ⟨-, _, -, h⟩ := run_bind_eq_ok.1 h
  obtain ⟨flow, _, hflow, h⟩ := run_bind_eq_ok.1 h
  have hservices := mapServices_eq_ok.2 ⟨described, mapM_stage_eq_ok hdescribed, rfl⟩
  exact ⟨⟨_, metrics, flow, hservices, stage_eq_ok hmetrics, stage_eq_ok hflow⟩, run_pure_eq_ok h⟩

/-- A run that is not cancelled polls for every file of each pass and for every module. -/
theorem analyzeStages_none (s : Stages config corpus) :
    analyzeStages config corpus runId timestamp none used = .ok (s.result runId timestamp,
      used + corpus.javaFiles.length + corpus.javaFiles.length + (scannedFiles corpus).length +
        corpus.javaFiles.length + (detectModules config.maxWalkDepth corpus).length +
        (linkedFiles corpus).length) := by
  obtain ⟨services, metrics, flow, hservices, hmetrics, hflow⟩ := s
  obtain ⟨described, hdescribed, rfl⟩ := mapServices_eq_ok.1 hservices
  unfold analyzeStages
  refine run_bind_eq_ok.2 ⟨_, _, mapPolled_none _ _, ?_⟩
  refine run_bind_eq_ok.2 ⟨_, _, pollAll_none _, ?_⟩
  refine run_bind_eq_ok.2 ⟨_, _, pollAll_none _, ?_⟩
  refine run_bind_eq_ok.2 ⟨_, _, pollAll_none _, ?_⟩
  refine run_bind_eq_ok.2 ⟨metrics, _, stage_ok hmetrics, ?_⟩
  refine run_bind_eq_ok.2 ⟨described, _, mapM_stage_none hdescribed, ?_⟩
  refine run_bind_eq_ok.2 ⟨_, _, pollAll_none _, ?_⟩
  exact run_bind_eq_ok.2 ⟨flow, _, stage_ok hflow, rfl⟩

/-- **The results of runs that are not cancelled**: there is one exactly when every stage succeeds, and it reports
    what they made. -/
theorem analyze_eq_ok :
    analyze config corpus runId timestamp = .ok a ↔ ∃ s : Stages config corpus, a = s.result runId timestamp := by
  constructor
  · intro h
    obtain ⟨⟨a, n⟩, hrun, h⟩ := bind_eq_ok.1 h
    cases h
    exact analyzeStages_eq_ok hrun
  · rintro ⟨s, rfl⟩
    exact bind_eq_ok.2 ⟨_, analyzeStages_none s, rfl⟩

end Results

end SpringAtlas
