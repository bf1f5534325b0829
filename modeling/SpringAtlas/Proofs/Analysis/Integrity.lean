import SpringAtlas.Proofs.Analysis.Run
import SpringAtlas.Proofs.Finding.Scan
import SpringAtlas.Proofs.Flow.Graph
import SpringAtlas.Proofs.Relation.Soundness
import SpringAtlas.Yaml.Document

/-!
# `Proofs.Analysis.Integrity` — what a result refers to is there

The parts of a result are made by different stages and refer to each other by name: relations and nodes name classes,
classes, endpoints and links name modules, findings and dependencies name files. `Analysis.RefersWithin` says that
every such name leads to something, and it holds of every run that gives a result.

## Contents
* `Analysis.RefersWithin` — the references of a result
* `analyze_refersWithin` — they hold after every run
-/

namespace SpringAtlas

/-- The names of the classes of a result. -/
def Analysis.factNames (a : Analysis) : List String :=
  a.facts.map ClassFact.name

/-- The names of the modules of a result. -/
def Analysis.moduleNames (a : Analysis) : List String :=
  a.modules.map BuildModule.name

/-- Everything that a result refers to is a part of the result or of the corpus. -/
structure Analysis.RefersWithin (corpus : Corpus) (a : Analysis) : Prop where
  relation_ends : ∀ r ∈ a.relations, r.source ∈ a.factNames ∧ r.target ∈ a.factNames
  fact_module : ∀ f ∈ a.facts, ∀ m, f.moduleName = some m → m ∈ a.moduleNames
  endpoint_module : ∀ f ∈ a.facts, ∀ e ∈ f.endpoints, ∀ m, e.moduleName = some m → m ∈ a.moduleNames
  endpoint_class : ∀ f ∈ a.facts, ∀ e ∈ f.endpoints, e.className = some f.name
  link_source : ∀ l ∈ a.links, l.source ∈ a.moduleNames
  message_target : ∀ l ∈ a.links, l.technology = .kafka ∨ l.technology = .rabbitmq →
    ∀ m, l.target = some m → m ∈ a.moduleNames
  node_class : ∀ n ∈ a.dataFlow.graph.nodes, n.className ∈ a.factNames
  edge_ends : ∀ e ∈ a.dataFlow.graph.edges, e.source ∈ a.dataFlow.graph.ids ∧ e.target ∈ a.dataFlow.graph.ids
  path_nodes : ∀ p ∈ a.dataFlow.paths, ∀ id ∈ p.nodes, id ∈ a.dataFlow.graph.ids
  finding_file : ∀ x ∈ a.findings, ∃ f ∈ corpus.files, x.fileName = f.path
  dependency_file : ∀ x ∈ a.dependencies, ∃ d ∈ corpus.descriptors, x.sourceFile = some d.path

/-! ## Stages -/

namespace Stages

variable [Yaml.Loader] {config : AnalyzerConfig} {corpus : Corpus} (s : Stages config corpus)

theorem factNames : s.services.facts.map ClassFact.name =
    (extractedFacts config.extraction corpus).map ClassFact.name :=
  (mapServices_facts s.services_eq).1

/-- Relations are found with the facts as they were extracted, which have the names of the reported ones. -/
theorem relation_ends {r : Relation}
    (h : r ∈ relations (.ofFacts (extractedFacts config.extraction corpus)) config.lookaheadLines corpus) :
    r.source ∈ s.services.facts.map ClassFact.name ∧ r.target ∈ s.services.facts.map ClassFact.name := by
  have hv := relations_valid h
  rw [s.factNames]
  exact ⟨NameIndex.names_ofFacts_subset hv.source_known, NameIndex.names_ofFacts_subset hv.target_known⟩

/-- Placing a fact in a module keeps the class that its endpoints name. -/
theorem endpoint_class {f : ClassFact} (hf : f ∈ s.services.facts) {e : Endpoint} (he : e ∈ f.endpoints) :
    e.className = some f.name := by
  obtain ⟨described, -, hs⟩ := mapServices_eq_ok.1 s.services_eq
  rw [hs] at hf
  obtain ⟨g, hg, rfl⟩ := mem_assignModules hf
  obtain ⟨e', he', rfl⟩ := List.mem_map.1 he
  obtain ⟨file, -, hfile⟩ := exists_extract_of_mem hg
  have hclass : e'.className = some g.name := extract_className hfile he'
  exact hclass

end Stages

/-! ## Runs -/

/-- **What a run reports refers to what it reports.** Whenever a run that is not cancelled gives a result, the names in
    all its parts lead to classes and modules of the result, to nodes of its graph, and to files and descriptors of
    the corpus. -/
theorem analyze_refersWithin [Yaml.Loader] {config : AnalyzerConfig} {corpus : Corpus} {runId : String}
    {timestamp : Timestamp} {a : Analysis} (h : analyze config corpus runId timestamp = .ok a) : a.RefersWithin corpus := by
  obtain ⟨s, rfl⟩ := analyze_eq_ok.1 h
  obtain ⟨-, hfacts⟩ := mapServices_facts s.services_eq
  obtain ⟨hnodes, hedges, hpaths⟩ := dataFlow_closed s.flow_eq
  refine
    { relation_ends := fun r hr => s.relation_ends hr
      fact_module := fun f hf => (hfacts f hf).1
      endpoint_module := fun f hf e he m hm => ?endpoint
      endpoint_class := fun f hf e he => s.endpoint_class hf he
      link_source := fun l hl => (mapServices_links s.services_eq hl).source_mem
      message_target := fun l hl ht => (mapServices_links s.services_eq hl).target_mem ?message
      node_class := hnodes
      edge_ends := hedges
      path_nodes := hpaths
      finding_file := fun x hx => scanCorpus_fileName hx
      dependency_file := fun x hx => mapServices_dependencies s.services_eq hx }
  case endpoint =>
    -- an endpoint is in the module of its class
    rw [(hfacts f hf).2 e he] at hm
    exact (hfacts f hf).1 m hm
  case message =>
    rcases ht with ht | ht
    · rw [ht]
      rfl
    · rw [ht]
      rfl

/-- Two modules; the first sends to a channel that the second listens to. -/
def shopCorpus : Corpus where
  files := [
    ⟨"order/A.java", "@Controller class A \x7b @Autowired B b;\n@GetMapping(\"/o\")\n" ++
      "B o() \x7b kafkaTemplate.send(\"t\"); \x7d \x7d"⟩,
    ⟨"order/B.java", "@Service class B \x7b\x7d"⟩,
    ⟨"stock/C.java", "class C \x7b @KafkaListener(\"t\") void on() \x7b\x7d pwd=\"x\" \x7d"⟩]
  descriptors := [.ofFile "order/build.gradle" "api 'g:a'", .ofFile "stock/build.gradle" ""]

theorem shopCorpus_sorted :
    (detectModules 3 shopCorpus).Pairwise fun m n => n.rootPath.length ≤ m.rootPath.length := by
  decide +kernel

/-- Every stage of a run over the shop succeeds; the sender is linked to the listener. -/
theorem shopCorpus_stages : ∃ s : Stages {} shopCorpus, s.services.links.map Link.target = [some "stock", none] := by
  have hall : (mapServices 3 shopCorpus (extractedFacts ⟨200, 4⟩ shopCorpus)).toOption.map
        (fun s => s.links.map Link.target) = some [some "stock", none] ∧
      (codeMetrics shopCorpus (extractedFacts ⟨200, 4⟩ shopCorpus)).toOption.isSome ∧
      (dataFlow 10 (assignModules (detectModules 3 shopCorpus)
        (extractedFacts ⟨200, 4⟩ shopCorpus))).toOption.isSome := by
    unfold mapServices ServiceMap.ofModules sourceLinks sourceName describeIn ownedFacts isOwnedBy assignModules
    -- sorting does not evaluate, and these modules need none
    simp only [ownerOf?_eq_find? shopCorpus_sorted]
    decide +kernel
  exact exists_stages {} hall.1 hall.2.1 hall.2.2

theorem analyze_refersWithin_shop : ∃ a, analyze {} shopCorpus "run" { date := ⟨2024, 1, 1⟩ } = .ok a ∧
    a.links.map Link.target = [some "stock", none] ∧ a.RefersWithin shopCorpus := by
  obtain ⟨s, hlinks⟩ := shopCorpus_stages
  have h : analyze {} shopCorpus "run" { date := ⟨2024, 1, 1⟩ } = .ok (s.result _ _) := analyze_eq_ok.2 ⟨s, rfl⟩
  exact ⟨_, h, hlinks, analyze_refersWithin h⟩

end SpringAtlas
