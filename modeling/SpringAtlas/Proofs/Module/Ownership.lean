import SpringAtlas.Module.Map
import SpringAtlas.Proofs.Outcome
import SpringAtlas.Proofs.Sorting

/-!
# `Proofs.Module.Ownership` — files have owners, and modules keep their names

A file belongs to the module with the longest directory that it lies in. The modules are searched with the longest
directories first, and sorting them is stable, so that of several modules with one directory the first one listed counts.

Files and facts are bound to modules by name before the modules are described. Describing a module fills in what its
files say and leaves its name alone, so that those names still lead to a module afterwards. A corpus with a file has a
module, and a file without an owner can fall back on it.

## Contents
* `ownerOf?_mem`, `sourceName_mem` — the names that files go by
* `ownerOf?_eq_none_iff`, `length_le_of_ownerOf?`, `rootPath_eq_of_owns` — the owner has the longest directory
* `filter_byLength`, `OwnsLongest`, `ownerOf?_ownsLongest` — of several such modules it is the first one listed
* `detectModules_ne_nil` — a corpus with a file has a module
* `describeModule_eq_ok`, `mapM_describeIn_map`, `mapM_describeIn_names` — what describing keeps and counts
* `moduleStore` — the settings that a module is described from
* `mem_assignModules` — the facts of the map
-/

namespace SpringAtlas

/-! ## Owners -/

/-- An owner is one of the modules. -/
theorem ownerOf?_mem {modules : List BuildModule} {path : String} {m : BuildModule}
    (h : ownerOf? modules path = some m) : m ∈ modules :=
  List.mem_mergeSort.1 (List.mem_of_find?_eq_some h)

/-- Modules that are listed with the longest directory first are searched as they stand. -/
theorem ownerOf?_eq_find? {modules : List BuildModule}
    (h : modules.Pairwise fun m n => n.rootPath.length ≤ m.rootPath.length) (path : String) :
    ownerOf? modules path = modules.find? fun m => m.owns path := by
  have hsorted : byLength modules = modules := by
    unfold byLength
    apply List.mergeSort_of_pairwise
    exact h.imp decide_eq_true
  rw [ownerOf?, hsorted]

/-- A path lies in the directory of its owner. -/
theorem owns_of_ownerOf? {modules : List BuildModule} {path : String} {m : BuildModule}
    (h : ownerOf? modules path = some m) : m.owns path = true := by
  have howns := List.find?_some h
  exact howns

/-- A path has no owner if it lies in no directory of a module. -/
theorem ownerOf?_eq_none_iff {modules : List BuildModule} {path : String} :
    ownerOf? modules path = none ↔ ∀ m ∈ modules, m.owns path = false := by
  rw [ownerOf?, List.find?_eq_none]
  simp [byLength]

theorem byLength_trans (a b c : BuildModule) (hab : decide (b.rootPath.length ≤ a.rootPath.length) = true)
    (hbc : decide (c.rootPath.length ≤ b.rootPath.length) = true) :
    decide (c.rootPath.length ≤ a.rootPath.length) = true := by
  rw [decide_eq_true_eq] at hab hbc ⊢
  exact Nat.le_trans hbc hab

theorem byLength_total (a b : BuildModule) :
    (decide (b.rootPath.length ≤ a.rootPath.length) || decide (a.rootPath.length ≤ b.rootPath.length)) = true := by
  rw [Bool.or_eq_true, decide_eq_true_eq, decide_eq_true_eq]
  exact Nat.le_total _ _

/-- No module that owns a path has a longer directory than the owner of the path. -/
theorem length_le_of_ownerOf? {modules : List BuildModule} {path : String} {m n : BuildModule}
    (h : ownerOf? modules path = some m) (hn : n ∈ modules) (howns : n.owns path = true) :
    n.rootPath.length ≤ m.rootPath.length := by
  have hsorted : (byLength modules).Pairwise fun a b => decide (b.rootPath.length ≤ a.rootPath.length) = true :=
    List.pairwise_mergeSort byLength_trans byLength_total modules
  obtain ⟨-, before, after, hsplit, hbefore⟩ := List.find?_eq_some_iff_append.1 h
  have hmem : n ∈ byLength modules := List.mem_mergeSort.2 hn
  rw [hsplit] at hsorted hmem
  -- the modules before the owner do not own the path, and those behind it have no longer directories
  rcases List.mem_append.1 hmem with hn | hn
  · have hnot := hbefore n hn
    rw [howns] at hnot
    cases hnot
  · rcases List.mem_cons.1 hn with rfl | hn
    · exact Nat.le_refl _
    · have hlater := (List.pairwise_append.1 hsorted).2.1
      exact of_decide_eq_true ((List.pairwise_cons.1 hlater).1 n hn)

/-- **Modules with directories of one length keep their order** when the modules are sorted. -/
theorem filter_byLength {ok : BuildModule → Bool} {size : Nat} (hsize : ∀ m, ok m = true → m.rootPath.length = size)
    (modules : List BuildModule) : (byLength modules).filter ok = modules.filter ok := by
  refine filter_mergeSort byLength_trans byLength_total (fun a b ha hb => decide_eq_true ?_) modules
  exact Nat.le_of_eq ((hsize b hb).trans (hsize a ha).symm)

theorem owns_iff {m : BuildModule} {path : String} :
    m.owns path = true ↔ m.rootPath = "" ∨ path = m.rootPath ∨ ∃ below, path = m.rootPath ++ "/" ++ below := by
  unfold BuildModule.owns
  rw [Bool.or_eq_true, Bool.or_eq_true, String.isEmpty_iff, beq_iff_eq, List.isPrefixOf_iff_prefix, or_assoc]
  refine or_congr_right (or_congr_right ?_)
  constructor
  · rintro ⟨below, hbelow⟩
    refine ⟨String.ofList below, String.toList_inj.1 ?_⟩
    rw [String.toList_append, String.toList_ofList, hbelow]
  · rintro ⟨below, rfl⟩
    exact ⟨below.toList, String.toList_append.symm⟩

theorem rootPath_prefix_of_owns {m : BuildModule} {path : String} (h : m.owns path = true) :
    m.rootPath.toList <+: path.toList := by
  rcases owns_iff.1 h with hroot | rfl | ⟨below, rfl⟩
  · rw [hroot]
    exact List.nil_prefix
  · exact List.prefix_rfl
  · rw [String.toList_append, String.toList_append, List.append_assoc]
    exact List.prefix_append _ _

/-- Two directories of one length that a path lies in are the same. -/
theorem rootPath_eq_of_owns {m n : BuildModule} {path : String} (hm : m.owns path = true) (hn : n.owns path = true)
    (hlength : m.rootPath.length = n.rootPath.length) : m.rootPath = n.rootPath := by
  have hchars : m.rootPath.toList.length = n.rootPath.toList.length := by
    rw [String.length_toList, String.length_toList, hlength]
  have hstart : m.rootPath.toList <+: n.rootPath.toList :=
    List.prefix_of_prefix_length_le (rootPath_prefix_of_owns hm) (rootPath_prefix_of_owns hn) (Nat.le_of_eq hchars)
  exact String.toList_inj.1 (hstart.eq_of_length hchars)

/-- The links of a file go out under the name of a module, if there is any. -/
theorem sourceName_mem {modules : List BuildModule} (hne : modules ≠ []) (path : String) :
    sourceName modules path ∈ modules.map BuildModule.name := by
  unfold sourceName
  split
  · next m hm => exact List.mem_map_of_mem (ownerOf?_mem hm)
  · cases modules with
    | nil => exact absurd rfl hne
    | cons m ms => exact List.mem_cons_self

/-- A corpus with a file has a module. -/
theorem detectModules_ne_nil {maxDepth : Int} {c : Corpus} {f : SourceFile} (h : f ∈ c.files) :
    detectModules maxDepth c ≠ [] := by
  have hfiles : c.isEmpty = false := by
    have hne : c.files ≠ [] := List.ne_nil_of_mem h
    simp [Corpus.isEmpty, hne]
  unfold detectModules
  rw [hfiles, if_neg Bool.false_ne_true]
  split
  · exact List.cons_ne_nil _ _
  · -- one module for each descriptor, and there are descriptors
    next hds =>
    intro hnil
    exact hds (List.map_eq_nil_iff.1 hnil)

/-! ## The owner in the order of discovery -/

/-- The module owns the path, no module that owns it has a longer directory, and none that is listed before has a
    directory of the same length. -/
structure OwnsLongest (modules : List BuildModule) (path : String) (m : BuildModule) : Prop where
  owns : m.owns path = true
  longest : ∀ n ∈ modules, n.owns path = true → n.rootPath.length ≤ m.rootPath.length
  first : ∃ before after, modules = before ++ m :: after ∧
    ∀ n ∈ before, n.owns path = true → n.rootPath.length ≠ m.rootPath.length

/-- A module that owns a path and has a directory of the given length. -/
def ownsAtLength (path : String) (size : Nat) (m : BuildModule) : Bool :=
  m.owns path && m.rootPath.length == size

theorem ownsAtLength_iff {path : String} {size : Nat} {m : BuildModule} :
    ownsAtLength path size m = true ↔ m.owns path = true ∧ m.rootPath.length = size := by
  simp [ownsAtLength]

/-- The sorted modules and the modules as they are listed begin with the same one of a given length. -/
theorem find?_ownsAtLength (modules : List BuildModule) (path : String) (size : Nat) :
    (byLength modules).find? (ownsAtLength path size) = modules.find? (ownsAtLength path size) := by
  rw [← List.head?_filter, ← List.head?_filter, filter_byLength fun m hm => (ownsAtLength_iff.1 hm).2]

theorem ownsLongest_of_ownerOf? {modules : List BuildModule} {path : String} {m : BuildModule}
    (h : ownerOf? modules path = some m) : OwnsLongest modules path m := by
  have howns := owns_of_ownerOf? h
  refine ⟨howns, fun n => length_le_of_ownerOf? h, ?_⟩
  -- the owner is the first of its length among the sorted modules, so it is the first of its length in the list
  have hsorted : (byLength modules).find? (ownsAtLength path m.rootPath.length) = some m := by
    obtain ⟨-, before, after, hsplit, hbefore⟩ := List.find?_eq_some_iff_append.1 h
    refine List.find?_eq_some_iff_append.2 ⟨ownsAtLength_iff.2 ⟨howns, rfl⟩, before, after, hsplit, fun n hn => ?_⟩
    have hnot : n.owns path = false := by simpa using hbefore n hn
    simp [ownsAtLength, hnot]
  rw [find?_ownsAtLength] at hsorted
  obtain ⟨-, before, after, hsplit, hbefore⟩ := List.find?_eq_some_iff_append.1 hsorted
  refine ⟨before, after, hsplit, fun n hn hn' hlength => ?_⟩
  have hnot := hbefore n hn
  rw [ownsAtLength_iff.2 ⟨hn', hlength⟩] at hnot
  cases hnot

/-- Among the modules with the longest directory the owner is the first one listed. -/
theorem OwnsLongest.find? {modules : List BuildModule} {path : String} {m : BuildModule}
    (h : OwnsLongest modules path m) : modules.find? (ownsAtLength path m.rootPath.length) = some m := by
  obtain ⟨before, after, hsplit, hbefore⟩ := h.first
  refine List.find?_eq_some_iff_append.2 ⟨ownsAtLength_iff.2 ⟨h.owns, rfl⟩, before, after, hsplit, fun n hn => ?_⟩
  rw [Bool.not_eq_true', ← Bool.not_eq_true]
  intro hfound
  obtain ⟨hn', hlength⟩ := ownsAtLength_iff.1 hfound
  exact hbefore n hn hn' hlength

/-- A module that owns a path by the longest directory is one of the modules. -/
theorem OwnsLongest.mem {modules : List BuildModule} {path : String} {m : BuildModule}
    (h : OwnsLongest modules path m) : m ∈ modules :=
  List.mem_of_find?_eq_some h.find?

theorem ownerOf?_eq_some_iff {modules : List BuildModule} {path : String} {m : BuildModule} :
    ownerOf? modules path = some m ↔ OwnsLongest modules path m := by
  refine ⟨ownsLongest_of_ownerOf?, fun h => ?_⟩
  cases howner : ownerOf? modules path with
  | none =>
    have hnot := ownerOf?_eq_none_iff.1 howner m h.mem
    rw [h.owns] at hnot
    cases hnot
  | some n =>
    -- both have the greatest length, and both are the first of that length
    have hn := ownsLongest_of_ownerOf? howner
    have hlength : n.rootPath.length = m.rootPath.length :=
      Nat.le_antisymm (h.longest n hn.mem hn.owns) (hn.longest m h.mem h.owns)
    rw [← hn.find?, hlength, h.find?]

/-- **Files belong to the module with the longest directory**, the first one listed where several modules have it. A path
    has no owner if it lies in the directory of no module, and it lies in a directory if that is the root of the corpus
    or the path itself, or if the path goes on behind it with a slash. -/
theorem ownerOf?_ownsLongest (modules : List BuildModule) (path : String) :
    (ownerOf? modules path = none ↔ ∀ m ∈ modules, m.owns path = false) ∧
    (∀ m, ownerOf? modules path = some m ↔ OwnsLongest modules path m) ∧
    ∀ m : BuildModule, m.owns path = true ↔
      m.rootPath = "" ∨ path = m.rootPath ∨ ∃ below, path = m.rootPath ++ "/" ++ below :=
  ⟨ownerOf?_eq_none_iff, fun _ => ownerOf?_eq_some_iff, fun _ => owns_iff⟩

/-! ## Descriptions -/

/-- A description keeps the name and the directory of a module and counts the facts that it owns. -/
theorem describeModule_eq_ok [Yaml.Loader] {m : BuildModule} {files : List SourceFile}
    {descriptor : Option BuildDescriptor} {owned : List ClassFact} {r : BuildModule × List Problem}
    (h : describeModule m files descriptor owned = .ok r) :
    r.1.name = m.name ∧ r.1.rootPath = m.rootPath ∧ r.1.classCount = owned.length ∧
      r.1.endpointCount = (owned.flatMap ClassFact.endpoints).length := by
  -- only the settings can fail; name and directory are none of the fields that a description sets
  dsimp only [describeModule] at h
  obtain ⟨settings, -, h⟩ := bind_eq_ok.1 h
  cases h
  exact ⟨rfl, rfl, rfl, rfl⟩

/-- What each description takes from its module, all descriptions take from the modules. -/
theorem mapM_describeIn_map [Yaml.Loader] {β : Type} {c : Corpus} {all detected : List BuildModule}
    {facts : List ClassFact} {described : List (BuildModule × List Problem)} (h : detected.mapM (describeIn c all facts) = .ok described)
    {f g : BuildModule → β} (hfg : ∀ {m r}, describeIn c all facts m = .ok r → g r.1 = f m) :
    (described.map Prod.fst).map g = detected.map f := by
  have hall := forall₂_of_mapM_eq_ok h
  clear h
  induction hall with
  | nil => rfl
  | cons hd _ ih => rw [List.map_cons, List.map_cons, List.map_cons, hfg hd, ih]

/-- The modules of a corpus have the same names before and after they are described. -/
theorem mapM_describeIn_names [Yaml.Loader] {c : Corpus} {all detected : List BuildModule} {facts : List ClassFact}
    {described : List (BuildModule × List Problem)} (h : detected.mapM (describeIn c all facts) = .ok described) :
    (described.map Prod.fst).map BuildModule.name = detected.map BuildModule.name :=
  mapM_describeIn_map h fun hd => (describeModule_eq_ok hd).1

/-- The settings of a module of a corpus, merged from its files. -/
def moduleStore [Yaml.Loader] (c : Corpus) (modules : List BuildModule) (m : BuildModule) : Settings.Store :=
  (loadSettings (Settings.selectFiles (c.files.filter fun f => isOwnedBy modules m f.path))).1

/-! ## Facts -/

/-- A fact of the map is a fact that was given, with the name of its owner on it and on its endpoints. -/
theorem mem_assignModules {modules : List BuildModule} {facts : List ClassFact} {f : ClassFact}
    (h : f ∈ assignModules modules facts) :
    ∃ g ∈ facts, f = g.assignModule ((ownerOf? modules g.filePath).map BuildModule.name) := by
  obtain ⟨g, hg, rfl⟩ := List.mem_map.1 h
  exact ⟨g, hg, rfl⟩

/-- Filling in modules keeps the names of classes. -/
theorem assignModules_names (modules : List BuildModule) (facts : List ClassFact) :
    (assignModules modules facts).map ClassFact.name = facts.map ClassFact.name := by
  unfold assignModules
  rw [List.map_map]
  rfl

/-- The name that is filled in is the name of a module. -/
theorem ownerName_mem {modules : List BuildModule} {path name : String}
    (h : (ownerOf? modules path).map BuildModule.name = some name) : name ∈ modules.map BuildModule.name := by
  obtain ⟨m, hm, rfl⟩ := Option.map_eq_some_iff.1 h
  exact List.mem_map_of_mem (ownerOf?_mem hm)

end SpringAtlas
