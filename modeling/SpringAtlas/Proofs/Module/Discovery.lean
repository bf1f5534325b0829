import SpringAtlas.Module.Detect
import SpringAtlas.Proofs.Corpus.Distinct

/-!
# `Proofs.Module.Discovery` — which directories are modules

A directory is a module if a Maven or Gradle descriptor lies in it that is not too deep, and its module is made from the
first of these. The root is left out if some descriptor there gathers the modules below it, whatever its kind; a corpus that
is left without modules is one module, and so no corpus with files is without one.

## Contents
* `BuildDescriptor.Builds`, `Corpus.FirstBuilding`, `Corpus.Makes` — which descriptors make a directory a module
* `mem_moduleDescriptors_iff`, `exists_moduleDescriptor_iff` — the descriptors that modules are made from
* `detectModules_cases`, `nodup_rootPath_detectModules` — the modules made from them
* `Corpus.DividedInto`, `detectModules_divides` — all of it together
-/

namespace SpringAtlas

deriving instance ReflBEq, LawfulBEq for DescriptorKind

/-! ## Descriptors -/

/-- A descriptor that can make a directory a module. -/
def BuildDescriptor.Builds (d : BuildDescriptor) (maxDepth : Int) (directory : String) : Prop :=
  (d.kind = .maven ∨ d.kind = .gradle) ∧ d.depth ≤ maxDepth ∧ d.directory = directory

namespace Corpus

/-- A descriptor at the root gathers the modules below it. -/
def RootGathers (c : Corpus) : Prop :=
  ∃ d ∈ c.descriptors, d.directory = "" ∧ d.declaresModules = true

/-- The first descriptor of the corpus that can make a directory a module. -/
def FirstBuilding (c : Corpus) (maxDepth : Int) (directory : String) (d : BuildDescriptor) : Prop :=
  d.Builds maxDepth directory ∧
    ∃ before after, c.descriptors = before ++ d :: after ∧ ∀ e ∈ before, ¬ e.Builds maxDepth directory

/-- The descriptors of the corpus make a directory a module. -/
def Makes (c : Corpus) (maxDepth : Int) (directory : String) : Prop :=
  (∃ d ∈ c.descriptors, d.Builds maxDepth directory) ∧ (directory = "" → ¬ c.RootGathers)

end Corpus

section Descriptors

variable {maxDepth : Int} {c : Corpus} {d : BuildDescriptor} {directory : String}

theorem rootAggregates_iff : rootAggregates c = true ↔ c.RootGathers := by
  simp [rootAggregates, Corpus.RootGathers]

theorem builds_iff : (isModuleDescriptor maxDepth d && d.directory == directory) = true ↔ d.Builds maxDepth directory := by
  simp [BuildDescriptor.Builds, isModuleDescriptor, and_assoc]

theorem exists_firstBuilding (hd : d ∈ c.descriptors) (hbuilds : d.Builds maxDepth directory) :
    ∃ first, c.FirstBuilding maxDepth directory first := by
  have hfound : (c.descriptors.find? fun e => isModuleDescriptor maxDepth e && e.directory == directory).isSome :=
    List.find?_isSome.2 ⟨d, hd, builds_iff.2 hbuilds⟩
  obtain ⟨first, hfirst⟩ := Option.isSome_iff_exists.1 hfound
  obtain ⟨hp, before, after, hsplit, hbefore⟩ := List.find?_eq_some_iff_append.1 hfirst
  refine ⟨first, builds_iff.1 hp, before, after, hsplit, fun e he h => ?_⟩
  have hnot := hbefore e he
  rw [builds_iff.2 h] at hnot
  cases hnot

/-- Where the root does not gather, the descriptors of a directory that may make modules are those that build it. -/
theorem mayMake_iff :
    ((isModuleDescriptor maxDepth d && !(d.directory.isEmpty && rootAggregates c)) = true ∧
        (d.directory == directory) = true) ↔
      d.Builds maxDepth directory ∧ (directory = "" → ¬ c.RootGathers) := by
  rw [← builds_iff, ← rootAggregates_iff]
  simp only [Bool.and_eq_true, Bool.not_eq_true', Bool.and_eq_false_imp, String.isEmpty_iff, beq_iff_eq,
    Bool.not_eq_true]
  constructor
  · rintro ⟨⟨hkind, hroot⟩, rfl⟩
    exact ⟨⟨hkind, rfl⟩, hroot⟩
  · rintro ⟨⟨hkind, rfl⟩, hroot⟩
    exact ⟨⟨hkind, hroot⟩, rfl⟩

/-- A module is made by the first descriptor of its directory, except where the root only gathers modules. -/
theorem mem_moduleDescriptors_iff :
    d ∈ moduleDescriptors maxDepth c ↔
      c.FirstBuilding maxDepth d.directory d ∧ (d.directory = "" → ¬ c.RootGathers) := by
  rw [moduleDescriptors, mem_distinctBy_iff, List.find?_filter, List.find?_eq_some_iff_append]
  simp only [decide_eq_true_eq, Bool.not_eq_true', decide_eq_false_iff_not, mayMake_iff, Corpus.FirstBuilding]
  constructor
  · rintro ⟨⟨hbuilds, hroot⟩, before, after, hsplit, hbefore⟩
    exact ⟨⟨hbuilds, before, after, hsplit, fun e he hb => hbefore e he ⟨hb, hroot⟩⟩, hroot⟩
  · rintro ⟨⟨hbuilds, before, after, hsplit, hbefore⟩, hroot⟩
    exact ⟨⟨hbuilds, hroot⟩, before, after, hsplit, fun e he h => hbefore e he h.1⟩

/-- The directories of modules are those that some descriptor makes one of. -/
theorem exists_moduleDescriptor_iff :
    (∃ d ∈ moduleDescriptors maxDepth c, d.directory = directory) ↔ c.Makes maxDepth directory := by
  constructor
  · rintro ⟨d, hd, rfl⟩
    obtain ⟨⟨hbuilds, before, after, hsplit, -⟩, hroot⟩ := mem_moduleDescriptors_iff.1 hd
    exact ⟨⟨d, by simp [hsplit], hbuilds⟩, hroot⟩
  · rintro ⟨⟨d, hd, hbuilds⟩, hroot⟩
    obtain ⟨first, hfirst⟩ := exists_firstBuilding hd hbuilds
    have hdirectory : first.directory = directory := hfirst.1.2.2
    refine ⟨first, mem_moduleDescriptors_iff.2 ?_, hdirectory⟩
    rw [hdirectory]
    exact ⟨hfirst, hroot⟩

end Descriptors

/-! ## Modules -/

/-- The module that is made from a descriptor. -/
def madeModule (c : Corpus) (d : BuildDescriptor) : BuildModule :=
  { name := moduleName d.directory c.name
    rootPath := d.directory
    descriptorPath := some d.path }

section Modules

variable {maxDepth : Int} {c : Corpus}

/-- A corpus is empty without files and descriptors. -/
theorem Corpus.isEmpty_iff : c.isEmpty = true ↔ c.files = [] ∧ c.descriptors = [] := by
  simp [Corpus.isEmpty]

/-- The modules of a corpus with contents are made from descriptors, or there is a single implicit one. -/
theorem detectModules_cases (maxDepth : Int) (h : ¬ (c.files = [] ∧ c.descriptors = [])) :
    (moduleDescriptors maxDepth c ≠ [] ∧
      detectModules maxDepth c = (moduleDescriptors maxDepth c).map (madeModule c)) ∨
    (moduleDescriptors maxDepth c = [] ∧ detectModules maxDepth c = [implicitModule c]) := by
  rw [← Corpus.isEmpty_iff] at h
  rw [detectModules, if_neg h]
  split
  · next hnone => exact Or.inr ⟨hnone, rfl⟩
  · next hsome => exact Or.inl ⟨hsome, rfl⟩

/-- Only an empty corpus has no modules. -/
theorem detectModules_eq_nil_iff : detectModules maxDepth c = [] ↔ c.files = [] ∧ c.descriptors = [] := by
  constructor
  · intro hnil
    by_contra h
    rcases detectModules_cases maxDepth h with ⟨hne, hmodules⟩ | ⟨-, hmodules⟩
    · rw [hnil] at hmodules
      exact hne (List.map_eq_nil_iff.1 hmodules.symm)
    · rw [hnil] at hmodules
      cases hmodules
  · intro h
    rw [detectModules, if_pos (Corpus.isEmpty_iff.2 h)]

/-- No two modules of a corpus have the same directory. -/
theorem nodup_rootPath_detectModules (maxDepth : Int) (c : Corpus) :
    ((detectModules maxDepth c).map BuildModule.rootPath).Nodup := by
  by_cases hempty : c.files = [] ∧ c.descriptors = []
  · rw [detectModules_eq_nil_iff.2 hempty]
    exact List.nodup_nil
  · rcases detectModules_cases maxDepth hempty with ⟨-, hmodules⟩ | ⟨-, hmodules⟩
    · rw [hmodules, List.map_map]
      exact nodup_map_distinctBy BuildDescriptor.directory _
    · rw [hmodules]
      exact List.nodup_singleton _

/-- How a corpus with contents is divided into modules. -/
structure Corpus.DividedInto (c : Corpus) (maxDepth : Int) (modules : List BuildModule) : Prop where
  roots_nodup : (modules.map BuildModule.rootPath).Nodup
  directory_iff : ∀ directory, directory ≠ "" →
    ((∃ m ∈ modules, m.rootPath = directory) ↔ ∃ d ∈ c.descriptors, d.Builds maxDepth directory)
  descriptor_first : ∀ m ∈ modules, c.Makes maxDepth m.rootPath →
    ∃ d, c.FirstBuilding maxDepth m.rootPath d ∧ m.descriptorPath = some d.path
  root_iff : (∃ m ∈ modules, m.rootPath = "") ↔
    ((∃ d ∈ c.descriptors, d.Builds maxDepth "") ∧ ¬ c.RootGathers) ∨ ∀ m ∈ modules, m.rootPath = ""
  single : (∀ m ∈ modules, m.rootPath = "") →
    ∃ m, modules = [m] ∧ m.name = c.name ∧ (¬ c.Makes maxDepth "" → m = implicitModule c)

theorem eq_singleton_of_root {modules : List BuildModule} (hne : modules ≠ [])
    (hnodup : (modules.map BuildModule.rootPath).Nodup) (hall : ∀ m ∈ modules, m.rootPath = "") :
    ∃ m, modules = [m] := by
  cases modules with
  | nil => exact absurd rfl hne
  | cons m ms =>
    cases ms with
    | nil => exact ⟨m, rfl⟩
    | cons n ms =>
      -- two modules at the root would have one directory
      have hm : m.rootPath = "" := hall m (by simp)
      have hn : n.rootPath = "" := hall n (by simp)
      simp [hm, hn] at hnodup

theorem dividedInto_made (hne : moduleDescriptors maxDepth c ≠ [])
    (hmodules : detectModules maxDepth c = (moduleDescriptors maxDepth c).map (madeModule c)) :
    c.DividedInto maxDepth (detectModules maxDepth c) := by
  have hroots : ∀ directory, (∃ m ∈ detectModules maxDepth c, m.rootPath = directory) ↔ c.Makes maxDepth directory := by
    intro directory
    rw [hmodules, ← exists_moduleDescriptor_iff]
    simp [madeModule]
  -- there is a module, so the root is one if no other directory is
  have hroot : (∀ m ∈ detectModules maxDepth c, m.rootPath = "") → c.Makes maxDepth "" := by
    intro hall
    obtain ⟨d, hd⟩ := List.exists_mem_of_ne_nil _ hne
    have hm : madeModule c d ∈ detectModules maxDepth c := hmodules ▸ List.mem_map_of_mem hd
    exact (hroots "").1 ⟨_, hm, hall _ hm⟩
  have hnodup := nodup_rootPath_detectModules maxDepth c
  refine
    { roots_nodup := hnodup
      directory_iff := fun directory hdirectory => ?directory
      descriptor_first := fun m hm _ => ?first
      root_iff := ?root
      single := fun hall => ?single }
  case directory =>
    rw [hroots]
    exact and_iff_left fun h => absurd h hdirectory
  case first =>
    rw [hmodules] at hm
    obtain ⟨d, hd, rfl⟩ := List.mem_map.1 hm
    exact ⟨d, (mem_moduleDescriptors_iff.1 hd).1, rfl⟩
  case root =>
    rw [hroots]
    constructor
    · rintro ⟨hbuilds, hgathers⟩
      exact Or.inl ⟨hbuilds, hgathers rfl⟩
    · rintro (⟨hbuilds, hgathers⟩ | hall)
      · exact ⟨hbuilds, fun _ => hgathers⟩
      · exact hroot hall
  case single =>
    have hsome : detectModules maxDepth c ≠ [] := by
      intro hnil
      rw [hnil] at hmodules
      exact hne (List.map_eq_nil_iff.1 hmodules.symm)
    obtain ⟨m, hm⟩ := eq_singleton_of_root hsome hnodup hall
    have hmem : m ∈ detectModules maxDepth c := by
      rw [hm]
      exact List.mem_singleton_self m
    have hname : m.name = moduleName m.rootPath c.name := by
      rw [hmodules] at hmem
      obtain ⟨d, -, rfl⟩ := List.mem_map.1 hmem
      dsimp only [madeModule]
    refine ⟨m, hm, ?_, fun hnot => absurd (hroot hall) hnot⟩
    rw [hname, hall m hmem]
    rfl

theorem dividedInto_implicit (hnone : moduleDescriptors maxDepth c = [])
    (hmodules : detectModules maxDepth c = [implicitModule c]) : c.DividedInto maxDepth (detectModules maxDepth c) := by
  have hmakes : ∀ directory, ¬ c.Makes maxDepth directory := by
    intro directory h
    obtain ⟨d, hd, -⟩ := exists_moduleDescriptor_iff.2 h
    rw [hnone] at hd
    cases hd
  have hroot : ∀ m ∈ detectModules maxDepth c, m.rootPath = "" := by
    intro m hm
    rw [hmodules, List.mem_singleton] at hm
    rw [hm]
    rfl
  refine
    { roots_nodup := nodup_rootPath_detectModules maxDepth c
      directory_iff := fun directory hdirectory => ⟨?_, ?_⟩
      descriptor_first := fun m _ hm => absurd hm (hmakes _)
      root_iff := ⟨fun _ => Or.inr hroot, fun _ => ⟨implicitModule c, by simp [hmodules], rfl⟩⟩
      single := fun _ => ⟨implicitModule c, hmodules, rfl, fun _ => rfl⟩ }
  · rintro ⟨m, hm, hpath⟩
    exact absurd (hpath.symm.trans (hroot m hm)) hdirectory
  · intro hbuilds
    exact absurd ⟨hbuilds, fun h => absurd h hdirectory⟩ (hmakes directory)

/-- **The modules of a corpus are exactly the directories with a usable descriptor.** Only an empty corpus has none. In any
    other no directory is a module twice; a directory below the root is one if and only if a Maven or Gradle descriptor
    within the depth lies in it, and the first of these is its descriptor. The root is one if such a descriptor lies in it
    and none there gathers modules, or if nothing else is one. -/
theorem detectModules_divides (maxDepth : Int) (c : Corpus) :
    (detectModules maxDepth c = [] ↔ c.files = [] ∧ c.descriptors = []) ∧
    (¬ (c.files = [] ∧ c.descriptors = []) → c.DividedInto maxDepth (detectModules maxDepth c)) := by
  refine ⟨detectModules_eq_nil_iff, fun h => ?_⟩
  rcases detectModules_cases maxDepth h with ⟨hne, hmodules⟩ | ⟨hnone, hmodules⟩
  · exact dividedInto_made hne hmodules
  · exact dividedInto_implicit hnone hmodules

-- a file that only names modules is none itself and still keeps the root from being one
example :
    (detectModules 3
      { files := []
        descriptors := [.ofFile "build.gradle" "", .ofFile "settings.gradle" "include 'a'", .ofFile "a/pom.xml" "",
          .ofFile "a/build.gradle" ""] }).map (fun m => (m.rootPath, m.descriptorPath)) = [("a", some "a/pom.xml")] := by
  decide +kernel

end Modules

end SpringAtlas
