import SpringAtlas.Proofs.Link.Peers
import SpringAtlas.Proofs.Module.Ownership

/-!
# `Proofs.Module.Map` — what a service map refers to

The map of a corpus is built in passes that only share names: facts are given the names of their owners, links go out
under the names of modules, and dependencies are listed with the descriptors that declare them. `mapServices_eq_ok`
says what the passes make; the other results say that none of the names is left without its module.
-/

namespace SpringAtlas

/-- **A corpus has a map if all its modules can be described**, and the map is made of the descriptions. -/
theorem mapServices_eq_ok [Yaml.Loader] {maxDepth : Int} {c : Corpus} {facts : List ClassFact} {services : ServiceMap} :
    mapServices maxDepth c facts = .ok services ↔
      ∃ described, (detectModules maxDepth c).mapM (describeIn c (detectModules maxDepth c) facts) = .ok described ∧
        services = .ofModules c (detectModules maxDepth c) described facts := by
  constructor
  · intro h
    obtain ⟨described, hd, h⟩ := bind_eq_ok.1 h
    cases h
    exact ⟨described, hd, rfl⟩
  · rintro ⟨described, hd, rfl⟩
    exact bind_eq_ok.2 ⟨described, hd, rfl⟩

/-! ## Dependencies -/

/-- A dependency names the descriptor that declares it. -/
theorem dependencies_sourceFile {d : BuildDescriptor} {x : Dependency} (h : x ∈ d.dependencies) :
    x.sourceFile = some d.path := by
  unfold BuildDescriptor.dependencies at h
  split at h
  · obtain ⟨m, -, hm⟩ := List.mem_filterMap.1 h
    obtain ⟨artifact, -, rfl⟩ := Option.map_eq_some_iff.1 hm
    rfl
  · obtain ⟨m, -, rfl⟩ := List.mem_map.1 h
    rfl
  · cases h

/-! ## The map -/

section Map

variable [Yaml.Loader] {maxDepth : Int} {c : Corpus} {facts : List ClassFact} {services : ServiceMap}

theorem mapServices_moduleNames (h : mapServices maxDepth c facts = .ok services) :
    services.modules.map BuildModule.name = (detectModules maxDepth c).map BuildModule.name := by
  obtain ⟨described, hd, rfl⟩ := mapServices_eq_ok.1 h
  exact mapM_describeIn_names hd

/-- The facts of a map belong to modules of the map, and so do their endpoints. -/
theorem mapServices_facts (h : mapServices maxDepth c facts = .ok services) :
    services.facts.map ClassFact.name = facts.map ClassFact.name ∧
    ∀ f ∈ services.facts, (∀ m, f.moduleName = some m → m ∈ services.modules.map BuildModule.name) ∧
      (∀ e ∈ f.endpoints, e.moduleName = f.moduleName) := by
  have hnames := mapServices_moduleNames h
  obtain ⟨described, -, rfl⟩ := mapServices_eq_ok.1 h
  refine ⟨assignModules_names _ _, fun f hf => ?_⟩
  obtain ⟨g, -, rfl⟩ := mem_assignModules hf
  refine ⟨fun m hm => ?_, fun e he => ?_⟩
  · rw [hnames]
    exact ownerName_mem hm
  · obtain ⟨e', -, rfl⟩ := List.mem_map.1 he
    rfl

/-- The links of a map go out from its modules, and messages reach its modules. -/
theorem mapServices_links (h : mapServices maxDepth c facts = .ok services) {l : Link} (hl : l ∈ services.links) :
    l.Within (services.modules.map BuildModule.name) := by
  have hnames := mapServices_moduleNames h
  obtain ⟨described, -, rfl⟩ := mapServices_eq_ok.1 h
  refine resolvePeers_within (fun l hl => ?_) hl
  rcases List.mem_append.1 hl with hl | hl
  · obtain ⟨f, hf, hl⟩ := List.mem_flatMap.1 hl
    refine scanLinks_within ?_ hl
    -- the file that shows the link is in the corpus, which therefore has a module to fall back on
    have hfile : f ∈ c.files := (List.mem_filter.1 (List.mem_filter.1 hf).1).1
    rw [hnames]
    exact sourceName_mem (detectModules_ne_nil hfile) f.path
  · obtain ⟨m, hm, hl⟩ := List.mem_flatMap.1 hl
    exact gatewayLinks_within (List.mem_map_of_mem hm) hl

/-- Every dependency of a map is declared in a descriptor of the corpus. -/
theorem mapServices_dependencies (h : mapServices maxDepth c facts = .ok services) {x : Dependency}
    (hx : x ∈ services.dependencies) : ∃ d ∈ c.descriptors, x.sourceFile = some d.path := by
  obtain ⟨described, -, rfl⟩ := mapServices_eq_ok.1 h
  obtain ⟨d, hd, hx⟩ := List.mem_flatMap.1 hx
  exact ⟨d, hd, dependencies_sourceFile hx⟩

end Map

end SpringAtlas
