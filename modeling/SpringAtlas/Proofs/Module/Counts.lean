import SpringAtlas.Proofs.Module.Completion
import SpringAtlas.Proofs.Module.Discovery
import SpringAtlas.Total
import SpringAtlas.Yaml.Document

/-!
# `Proofs.Module.Counts` — every class counts for one module

A module counts the classes whose files it owns, and a class is placed in the module that owns its file. Since modules have
distinct directories, the owner of a file is the only module with the longest directory that the file lies in: no class is
counted twice where modules lie inside each other, and only classes of tests and of files without an owner are left out.

## Contents
* `total_shares` — shares that do not overlap add up to the whole
* `IsLongestOwner`, `IsOwnerName`, `isOwnerName_ownerOf?` — the module that a file belongs to
* `ServiceMap.CountsOnce`, `mapServices_countsOnce` — counts and places of the classes of a map
-/

namespace SpringAtlas

/-! ## Shares -/

section Shares

variable {α β κ : Type} (g : α → List β) {xs : List α}

theorem length_flatMap_filter_or {p q : α → Bool} (h : ∀ x ∈ xs, p x = true → q x = false) :
    ((xs.filter p).flatMap g).length + ((xs.filter q).flatMap g).length =
      ((xs.filter fun x => p x || q x).flatMap g).length := by
  induction xs with
  | nil => rfl
  | cons x xs ih =>
    have hrest := ih fun y hy => h y (List.mem_cons_of_mem _ hy)
    cases hp : p x with
    | true =>
      have hq := h x List.mem_cons_self hp
      simp only [List.filter_cons, hp, hq, Bool.true_or, Bool.false_eq_true, if_true, if_false, List.flatMap_cons,
        List.length_append]
      omega
    | false =>
      cases hq : q x with
      | true =>
        simp only [List.filter_cons, hp, hq, Bool.or_true, Bool.false_eq_true, if_true, if_false, List.flatMap_cons,
          List.length_append]
        omega
      | false =>
        simp only [List.filter_cons, hp, hq, Bool.or_self, Bool.false_eq_true, if_false]
        exact hrest

/-- Where no two owners share an item, what they hold adds up to what some owner holds. -/
theorem total_shares {share : κ → α → Bool} {owners : List κ}
    (h : owners.Pairwise fun a b => ∀ x ∈ xs, share a x = true → share b x = false) :
    total (owners.map fun a => ((xs.filter (share a)).flatMap g).length) =
      ((xs.filter fun x => owners.any fun a => share a x).flatMap g).length := by
  induction owners with
  | nil => simp
  | cons a owners ih =>
    obtain ⟨hfirst, hrest⟩ := List.pairwise_cons.1 h
    rw [List.map_cons, total_cons, ih hrest, length_flatMap_filter_or g]
    · simp only [List.any_cons]
    · intro x hx ha
      rw [List.any_eq_false]
      intro b hb
      rw [hfirst b hb x hx ha]
      exact Bool.false_ne_true

end Shares

/-! ## Owners -/

theorem owns_congr {m n : BuildModule} (h : m.rootPath = n.rootPath) (path : String) : m.owns path = n.owns path := by
  unfold BuildModule.owns
  rw [h]

theorem isOwnedBy_iff {modules : List BuildModule} {m : BuildModule} {path : String} :
    isOwnedBy modules m path = true ↔ ∃ owner, ownerOf? modules path = some owner ∧ owner.rootPath = m.rootPath := by
  unfold isOwnedBy
  cases ownerOf? modules path with
  | none => simp
  | some owner => simp

/-- A path belongs to some module if it lies in the directory of one. -/
theorem any_isOwnedBy (modules : List BuildModule) (path : String) :
    (modules.any fun m => isOwnedBy modules m path) = modules.any fun m => m.owns path := by
  rw [Bool.eq_iff_iff, List.any_eq_true, List.any_eq_true]
  constructor
  · rintro ⟨m, -, hm⟩
    obtain ⟨owner, howner, -⟩ := isOwnedBy_iff.1 hm
    exact ⟨owner, ownerOf?_mem howner, owns_of_ownerOf? howner⟩
  · rintro ⟨m, hm, howns⟩
    cases howner : ownerOf? modules path with
    | none =>
      rw [ownerOf?_eq_none_iff.1 howner m hm] at howns
      cases howns
    | some owner => exact ⟨owner, ownerOf?_mem howner, isOwnedBy_iff.2 ⟨owner, howner, rfl⟩⟩

/-- The one module with the longest directory that a path lies in. -/
def IsLongestOwner (modules : List BuildModule) (path : String) (m : BuildModule) : Prop :=
  m ∈ modules ∧ m.owns path = true ∧
    ∀ n ∈ modules, n.owns path = true → n = m ∨ n.rootPath.length < m.rootPath.length

/-- The name of the module with the longest directory that a path lies in, none if it lies in no module. -/
def IsOwnerName (modules : List BuildModule) (path : String) : Option String → Prop
  | none => ∀ m ∈ modules, m.owns path = false
  | some name => ∃ m, IsLongestOwner modules path m ∧ m.name = name

section Described

-- modules before and after they are described
variable {detected modules : List BuildModule}
  (hsame : modules.map (fun m => (m.name, m.rootPath)) = detected.map fun m => (m.name, m.rootPath))
include hsame

/-- Every described module was detected, with the name and the directory that it has. -/
theorem exists_detected {m : BuildModule} (hm : m ∈ modules) :
    ∃ n ∈ detected, n.name = m.name ∧ n.rootPath = m.rootPath := by
  have hpair : (m.name, m.rootPath) ∈ modules.map fun m => (m.name, m.rootPath) := List.mem_map_of_mem hm
  rw [hsame] at hpair
  obtain ⟨n, hn, heq⟩ := List.mem_map.1 hpair
  exact ⟨n, hn, Prod.mk.inj heq⟩

/-- A described module with the longest directory is the only one, since directories are distinct. -/
theorem isOwnerName_ownerOf? (hroots : (detected.map BuildModule.rootPath).Nodup) (path : String) :
    IsOwnerName modules path ((ownerOf? detected path).map BuildModule.name) := by
  cases howner : ownerOf? detected path with
  | none =>
    intro m hm
    obtain ⟨n, hn, -, hroot⟩ := exists_detected hsame hm
    rw [← owns_congr hroot]
    exact ownerOf?_eq_none_iff.1 howner n hn
  | some owner =>
    obtain ⟨m, hm, hname, hroot⟩ := exists_detected hsame.symm (ownerOf?_mem howner)
    have howns : m.owns path = true := by
      rw [owns_congr hroot]
      exact owns_of_ownerOf? howner
    refine ⟨m, ⟨hm, howns, fun n hn hnowns => ?_⟩, hname⟩
    obtain ⟨n', hn', -, hnroot⟩ := exists_detected hsame hn
    have hle : n.rootPath.length ≤ m.rootPath.length := by
      rw [← hnroot, hroot]
      exact length_le_of_ownerOf? howner hn' (owns_congr hnroot path ▸ hnowns)
    rcases Nat.lt_or_eq_of_le hle with hlt | heq
    · exact Or.inr hlt
    · have hpaths : (modules.map BuildModule.rootPath).Nodup := by
        have hsecond := congrArg (List.map Prod.snd) hsame
        rw [List.map_map, List.map_map] at hsecond
        exact hsecond ▸ hroots
      exact Or.inl (List.inj_on_of_nodup_map hpaths hn hm (rootPath_eq_of_owns hnowns howns heq))

theorem any_owns_eq (path : String) : (modules.any fun m => m.owns path) = detected.any fun m => m.owns path := by
  rw [Bool.eq_iff_iff, List.any_eq_true, List.any_eq_true]
  constructor
  · rintro ⟨m, hm, howns⟩
    obtain ⟨n, hn, -, hroot⟩ := exists_detected hsame hm
    exact ⟨n, hn, owns_congr hroot path ▸ howns⟩
  · rintro ⟨m, hm, howns⟩
    obtain ⟨n, hn, -, hroot⟩ := exists_detected hsame.symm hm
    exact ⟨n, hn, owns_congr hroot path ▸ howns⟩

end Described

/-! ## Maps -/

namespace ServiceMap

/-- Whether a class counts for some module: its file is no test and lies in a module. -/
def counts (s : ServiceMap) (f : ClassFact) : Bool :=
  !Path.isTest f.filePath.toList && s.modules.any fun m => m.owns f.filePath

/-- Every class of a map is counted once, and stands in the module of its file with its endpoints. -/
structure CountsOnce (s : ServiceMap) (facts : List ClassFact) : Prop where
  classes : total (s.modules.map BuildModule.classCount) = (facts.filter s.counts).length
  endpoints : total (s.modules.map BuildModule.endpointCount) =
    ((facts.filter s.counts).flatMap ClassFact.endpoints).length
  places : List.Forall₂ (fun f g => g = f.assignModule g.moduleName ∧
    IsOwnerName s.modules f.filePath g.moduleName ∧ ∀ e ∈ g.endpoints, e.moduleName = g.moduleName) facts s.facts

end ServiceMap

/-- No class counts for two modules. -/
theorem pairwise_ownedFacts (maxDepth : Int) (c : Corpus) (facts : List ClassFact) :
    (detectModules maxDepth c).Pairwise fun m n => ∀ f ∈ facts,
      (!Path.isTest f.filePath.toList && isOwnedBy (detectModules maxDepth c) m f.filePath) = true →
        (!Path.isTest f.filePath.toList && isOwnedBy (detectModules maxDepth c) n f.filePath) = false := by
  have hroots := nodup_rootPath_detectModules maxDepth c
  rw [List.Nodup, List.pairwise_map] at hroots
  refine hroots.imp fun hne f _ hm => ?_
  obtain ⟨owner, howner, hroot⟩ := isOwnedBy_iff.1 (Bool.and_eq_true_iff.1 hm).2
  rw [Bool.and_eq_false_iff]
  refine Or.inr (Bool.eq_false_iff.2 fun hn => hne ?_)
  obtain ⟨owner', howner', hroot'⟩ := isOwnedBy_iff.1 hn
  cases howner.symm.trans howner'
  exact hroot.symm.trans hroot'

section Map

variable [Yaml.Loader] {maxDepth : Int} {c : Corpus} {facts : List ClassFact} {services : ServiceMap}

/-- The modules of a map have the names and directories that were detected. -/
theorem mapServices_names_roots (h : mapServices maxDepth c facts = .ok services) :
    services.modules.map (fun m => (m.name, m.rootPath)) =
      (detectModules maxDepth c).map fun m => (m.name, m.rootPath) := by
  obtain ⟨described, hd, rfl⟩ := mapServices_eq_ok.1 h
  refine mapM_describeIn_map hd fun hm => ?_
  obtain ⟨hname, hroot, -⟩ := describeModule_eq_ok hm
  rw [hname, hroot]

/-- What the modules hold of some lists, one for each class, is what the classes hold that count. -/
theorem total_ownedFacts (h : mapServices maxDepth c facts = .ok services) {β : Type} (g : ClassFact → List β) :
    total ((detectModules maxDepth c).map fun m => ((ownedFacts (detectModules maxDepth c) m facts).flatMap g).length) =
      ((facts.filter services.counts).flatMap g).length := by
  have hcounts : services.counts = fun f => (detectModules maxDepth c).any fun m =>
      !Path.isTest f.filePath.toList && isOwnedBy (detectModules maxDepth c) m f.filePath := by
    funext f
    rw [ServiceMap.counts, any_owns_eq (mapServices_names_roots h), ← any_isOwnedBy]
    cases Path.isTest f.filePath.toList <;> simp
  rw [hcounts]
  exact total_shares g (pairwise_ownedFacts maxDepth c facts)

theorem mapServices_classes (h : mapServices maxDepth c facts = .ok services) :
    total (services.modules.map BuildModule.classCount) = (facts.filter services.counts).length := by
  have htotal := total_ownedFacts h fun f => [f]
  simp only [List.flatMap_singleton'] at htotal
  rw [← htotal]
  obtain ⟨described, hd, rfl⟩ := mapServices_eq_ok.1 h
  exact congrArg total (mapM_describeIn_map hd fun hm => (describeModule_eq_ok hm).2.2.1)

theorem mapServices_endpoints (h : mapServices maxDepth c facts = .ok services) :
    total (services.modules.map BuildModule.endpointCount) =
      ((facts.filter services.counts).flatMap ClassFact.endpoints).length := by
  rw [← total_ownedFacts h ClassFact.endpoints]
  obtain ⟨described, hd, rfl⟩ := mapServices_eq_ok.1 h
  exact congrArg total (mapM_describeIn_map hd fun hm => (describeModule_eq_ok hm).2.2.2)

theorem mapServices_places (h : mapServices maxDepth c facts = .ok services) :
    List.Forall₂ (fun f g => g = f.assignModule g.moduleName ∧ IsOwnerName services.modules f.filePath g.moduleName ∧
      ∀ e ∈ g.endpoints, e.moduleName = g.moduleName) facts services.facts := by
  have hsame := mapServices_names_roots h
  obtain ⟨described, -, rfl⟩ := mapServices_eq_ok.1 h
  dsimp only [ServiceMap.ofModules, assignModules]
  rw [List.forall₂_map_right_iff, List.forall₂_same]
  intro f _
  refine ⟨rfl, isOwnerName_ownerOf? hsame (nodup_rootPath_detectModules maxDepth c) f.filePath, fun e he => ?_⟩
  obtain ⟨e', -, rfl⟩ := List.mem_map.1 he
  rfl

/-- **Every class counts for exactly one module.** The services of a corpus can be mapped unless the index of a gateway
    route is too long to be read. In the map the class counts of the modules add up to the number of classes that are in
    no test and lie in some module, and their endpoint counts to the endpoints of these; and every class stands, with its
    endpoints, in the module with the longest directory that its file lies in. -/
theorem mapServices_countsOnce (maxDepth : Int) (c : Corpus) (facts : List ClassFact) :
    ((∃ services, mapServices maxDepth c facts = .ok services) ↔
      ∀ m ∈ detectModules maxDepth c, ∀ e ∈ (moduleStore c (detectModules maxDepth c) m).entries,
        Settings.KeyFits e.1.toList) ∧
    ∀ services, mapServices maxDepth c facts = .ok services → services.CountsOnce facts := by
  refine ⟨mapServices_returns_iff, fun services h => ?_⟩
  exact
    { classes := mapServices_classes h
      endpoints := mapServices_endpoints h
      places := mapServices_places h }

end Map

/-- A module inside another one. -/
def nestedCorpus : Corpus where
  files := []
  descriptors := [.ofFile "shop/api/pom.xml" "", .ofFile "shop/pom.xml" ""]

/-- A class of each module, a class of a test, and one outside of all modules. -/
def nestedFacts : List ClassFact :=
  [{ name := "A", filePath := "shop/A.java" },
   { name := "B", filePath := "shop/api/B.java",
     endpoints := [{ method := .get, path := "/b", handler := "b", returnType := "B" }] },
   { name := "T", filePath := "shop/src/test/T.java" }, { name := "X", filePath := "X.java" }]

theorem nestedCorpus_sorted :
    (detectModules 3 nestedCorpus).Pairwise fun m n => n.rootPath.length ≤ m.rootPath.length := by
  decide +kernel

theorem mapServices_countsOnce_nested : ∃ services, mapServices 3 nestedCorpus nestedFacts = .ok services ∧
    services.modules.map (fun m => (m.name, m.classCount, m.endpointCount)) = [("api", 1, 1), ("shop", 1, 0)] ∧
    services.facts.map ClassFact.moduleName = [some "shop", some "api", some "shop", none] ∧
    services.CountsOnce nestedFacts := by
  have hmap : (mapServices 3 nestedCorpus nestedFacts).toOption.map (fun s =>
        (s.modules.map (fun m => (m.name, m.classCount, m.endpointCount)), s.facts.map ClassFact.moduleName)) =
      some ([("api", 1, 1), ("shop", 1, 0)], [some "shop", some "api", some "shop", none]) := by
    unfold mapServices ServiceMap.ofModules sourceLinks sourceName describeIn ownedFacts isOwnedBy assignModules
    -- sorting does not evaluate, and these modules need none
    simp only [ownerOf?_eq_find? nestedCorpus_sorted]
    decide +kernel
  obtain ⟨services, hservices, hparts⟩ := Option.map_eq_some_iff.1 hmap
  rw [toOption_eq_some] at hservices
  obtain ⟨hcounts, hplaces⟩ := Prod.mk.inj hparts
  exact ⟨services, hservices, hcounts, hplaces, (mapServices_countsOnce 3 nestedCorpus nestedFacts).2 services hservices⟩

end SpringAtlas
