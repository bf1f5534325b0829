import Mathlib.Data.List.Induction
import Mathlib.Data.List.Nodup
import SpringAtlas.Proofs.Module.Ownership
import SpringAtlas.Proofs.Settings.Entries
import SpringAtlas.Yaml.Document

/-!
# `Proofs.Settings.Precedence` — which file decides on a setting

Settings files are read base files first, properties before YAML, then by path, and the first entry of a key counts. Files
with distinct paths are in one order only, so that neither the merged settings nor what a module reads from them depend on
the order in which the files are listed.

The store of some files holds, under each relaxed key, the first value in the entries of all files one behind another
(`get?_loadSettings`). That the files are sorted turns "first" into "of the least file".

## Contents
* `Precedes`, `pairwise_selectFiles`, `selectFiles_perm` — the order of the files
* `fileSettings`, `firstValue?`, `get?_loadSettings` — what a store holds after loading files
* `Reads`, `reads_iff`, `loadSettings_problems` — files that are read without a fault
* `Decides`, `findSome?_eq_some_iff_least`, `FollowsPrecedence` — the deciding file
* `detectModules_perm`, `moduleStore_perm`, `settings_precedence` — the order of a corpus
-/

namespace SpringAtlas.Settings

/-! ## The order of files -/

/-- A file that holds settings of the application. -/
def HoldsSettings (f : SourceFile) : Prop :=
  isConfigName f.name = true ∧ f.isTest = false

instance (f : SourceFile) : Decidable (HoldsSettings f) :=
  inferInstanceAs (Decidable (_ ∧ _))

/-- Whether a settings file is for one profile only. -/
def isProfile (f : SourceFile) : Bool :=
  (profileOf? f.name).isSome

/-- Base files come before profile files, properties before YAML, and otherwise paths decide. -/
def Precedes (f g : SourceFile) : Prop :=
  (isProfile f = false ∧ isProfile g = true) ∨
  (isProfile f = isProfile g ∧
    ((f.isProperties = true ∧ g.isProperties = false) ∨ (f.isProperties = g.isProperties ∧ f.path < g.path)))

instance (f g : SourceFile) : Decidable (Precedes f g) :=
  inferInstanceAs (Decidable (_ ∨ _))

/-- The rank of a file as a number. -/
def rankNumber (f : SourceFile) : Nat :=
  2 * (isProfile f).toNat + (!f.isProperties).toNat

/-- Files are read by rank, and by path within a rank. -/
theorem readBefore_iff {f g : SourceFile} :
    readBefore f g = true ↔ rankNumber f < rankNumber g ∨ (rankNumber f = rankNumber g ∧ f.path ≤ g.path) := by
  unfold readBefore fileRank rankNumber isProfile
  cases (profileOf? f.name).isSome <;> cases (profileOf? g.name).isSome <;> cases f.isProperties <;>
    cases g.isProperties <;> simp

/-- A file precedes another one by rank, and by path within a rank. -/
theorem precedes_iff {f g : SourceFile} :
    Precedes f g ↔ rankNumber f < rankNumber g ∨ (rankNumber f = rankNumber g ∧ f.path < g.path) := by
  unfold Precedes rankNumber
  cases isProfile f <;> cases isProfile g <;> cases f.isProperties <;> cases g.isProperties <;> simp

theorem readBefore_trans {f g h : SourceFile} (hfg : readBefore f g = true) (hgh : readBefore g h = true) :
    readBefore f h = true := by
  rw [readBefore_iff] at hfg hgh ⊢
  rcases hfg with hfg | ⟨hfg, hpath⟩
  · exact Or.inl (by omega)
  · rcases hgh with hgh | ⟨hgh, hpath'⟩
    · exact Or.inl (by omega)
    · exact Or.inr ⟨hfg.trans hgh, String.le_trans hpath hpath'⟩

theorem readBefore_total (f g : SourceFile) : (readBefore f g || readBefore g f) = true := by
  rw [Bool.or_eq_true, readBefore_iff, readBefore_iff]
  rcases Nat.lt_trichotomy (rankNumber f) (rankNumber g) with h | h | h
  · exact Or.inl (Or.inl h)
  · rcases String.le_total f.path g.path with hpath | hpath
    · exact Or.inl (Or.inr ⟨h, hpath⟩)
    · exact Or.inr (Or.inr ⟨h.symm, hpath⟩)
  · exact Or.inr (Or.inl h)

theorem path_eq_of_readBefore {f g : SourceFile} (hfg : readBefore f g = true) (hgf : readBefore g f = true) :
    f.path = g.path := by
  rw [readBefore_iff] at hfg hgf
  have hsame : rankNumber f = rankNumber g := by omega
  have hle : f.path ≤ g.path := (hfg.resolve_left (by omega)).2
  have hge : g.path ≤ f.path := (hgf.resolve_left (by omega)).2
  exact String.le_antisymm hle hge

theorem precedes_of_readBefore {f g : SourceFile} (h : readBefore f g = true) (hne : f.path ≠ g.path) : Precedes f g := by
  rw [readBefore_iff] at h
  rw [precedes_iff]
  refine h.imp id fun ⟨hrank, hle⟩ => ⟨hrank, String.not_le.1 fun hge => hne ?_⟩
  exact String.le_antisymm hle hge

/-- The files that are selected are those that hold settings. -/
theorem mem_selectFiles {files : List SourceFile} {f : SourceFile} :
    f ∈ selectFiles files ↔ f ∈ files ∧ HoldsSettings f := by
  simp [selectFiles, HoldsSettings]

theorem sorted_selectFiles (files : List SourceFile) :
    (selectFiles files).Pairwise fun f g => readBefore f g = true := by
  unfold selectFiles
  apply List.pairwise_mergeSort
  · intro f g h hfg hgh
    exact readBefore_trans hfg hgh
  · intro f g
    exact readBefore_total f g

/-- Files are read in their order. -/
theorem pairwise_selectFiles {files : List SourceFile} (hpaths : (files.map SourceFile.path).Nodup) :
    (selectFiles files).Pairwise Precedes := by
  have hdistinct : ((selectFiles files).map SourceFile.path).Nodup := by
    unfold selectFiles
    rw [((List.mergeSort_perm _ _).map SourceFile.path).nodup_iff]
    exact hpaths.sublist (List.filter_sublist.map SourceFile.path)
  rw [List.Nodup, List.pairwise_map] at hdistinct
  exact ((sorted_selectFiles files).and hdistinct).imp fun h => precedes_of_readBefore h.1 h.2

/-- Files with distinct paths are read in one order, however they are listed. -/
theorem selectFiles_perm {files other : List SourceFile} (hpaths : (files.map SourceFile.path).Nodup)
    (h : other.Perm files) : selectFiles other = selectFiles files := by
  have hperm : (selectFiles other).Perm (selectFiles files) := by
    unfold selectFiles
    exact (List.mergeSort_perm _ _).trans ((h.filter _).trans (List.mergeSort_perm _ _).symm)
  refine hperm.eq_of_pairwise ?_ (sorted_selectFiles other) (sorted_selectFiles files)
  intro f g hf hg hfg hgf
  have hf' := h.mem_iff.1 (mem_selectFiles.1 hf).1
  have hg' := (mem_selectFiles.1 hg).1
  exact List.inj_on_of_nodup_map hpaths hf' hg' (path_eq_of_readBefore hfg hgf)

/-! ## What a store holds -/

/-- The entries of a file, those of its documents one behind another. -/
def fileSettings [Yaml.Loader] (f : SourceFile) : Entries :=
  (fileEntries f).1.flatten

/-- The value of the first entry of a file whose key has the relaxed form of a given one. -/
def firstValue? [Yaml.Loader] (f : SourceFile) (key : String) : Option String :=
  ((fileSettings f).find? fun e => relaxedKey e.1 == relaxedKey key).map Prod.snd

/-- The entries of a store after some more have been added. -/
def addEntries (es more : Entries) : Entries :=
  more.foldl (fun es e => es.setDefault (relaxedKey e.1) e.2) es

theorem lookup_setDefault (es : Entries) (k v key : String) :
    (es.setDefault k v).lookup key = (es.lookup key).or (if k = key then some v else none) := by
  unfold Entries.setDefault
  split
  · next htaken =>
    by_cases hk : k = key
    · rw [← hk, Option.or_of_isSome htaken]
    · rw [if_neg hk, Option.or_none]
  · rw [List.lookup_append]
    by_cases hk : k = key
    · simp [hk]
    · have hne : (key == k) = false := by simpa using Ne.symm hk
      simp [List.lookup_cons, hne, hk]

/-- Adding entries keeps the values that are there, and gives the other keys their first value. -/
theorem lookup_addEntries (es more : Entries) (key : String) :
    (addEntries es more).lookup key =
      (es.lookup key).or ((more.find? fun e => relaxedKey e.1 == key).map Prod.snd) := by
  induction more generalizing es with
  | nil => simp [addEntries]
  | cons e more ih =>
    have hstep : addEntries es (e :: more) = addEntries (es.setDefault (relaxedKey e.1) e.2) more := rfl
    rw [hstep, ih, lookup_setDefault, Option.or_assoc]
    by_cases hk : relaxedKey e.1 = key <;> simp [hk]

theorem entries_foldl_update (s : Store) (found : List Entries) :
    (found.foldl Store.update s).entries = addEntries s.entries found.flatten := by
  induction found generalizing s with
  | nil => rfl
  | cons es found ih =>
    rw [List.foldl_cons, ih, List.flatten_cons, addEntries, addEntries, List.foldl_append]
    rfl

/-- Loading a file adds its entries, up to a fault. -/
theorem entries_load [Yaml.Loader] (s : Store) (f : SourceFile) :
    (s.load f).1.entries = addEntries s.entries (fileSettings f) := by
  rw [fileSettings, ← entries_foldl_update]
  dsimp only [Store.load]
  split <;> dsimp only

/-- One file of many. -/
theorem loadSettings_concat [Yaml.Loader] (files : List SourceFile) (f : SourceFile) :
    loadSettings (files ++ [f]) =
      (((loadSettings files).1.load f).1, (loadSettings files).2 ++
        (((loadSettings files).1.load f).2.map fun _ =>
          Problem.failed "microservices" "configuration" (some f.path)).toList) := by
  rw [loadSettings, List.foldl_append]
  dsimp only [List.foldl_cons, List.foldl_nil, loadSettings]
  split
  · next hload => simp [hload]
  · next hload => simp [hload]

/-- A store holds what adding the entries of all files, one behind another, gives. -/
theorem entries_loadSettings [Yaml.Loader] (files : List SourceFile) :
    (loadSettings files).1.entries = addEntries [] (files.flatMap fileSettings) := by
  induction files using List.reverseRecOn with
  | nil => rfl
  | append_singleton files f ih =>
    rw [loadSettings_concat, entries_load, ih, List.flatMap_append, List.flatMap_singleton, addEntries, addEntries,
      addEntries, List.foldl_append]

/-- **The first file that has a key decides on it**; an empty value counts as none. -/
theorem get?_loadSettings [Yaml.Loader] (files : List SourceFile) (key : String) :
    (loadSettings files).1.get? key = (files.findSome? fun f => firstValue? f key).filter fun v => !v.isEmpty := by
  rw [Store.get?, entries_loadSettings, lookup_addEntries, List.lookup_nil, Option.none_or, List.find?_flatMap,
    List.map_findSome?]
  rfl

/-! ## Files without a fault -/

/-- What a file holds that can be read to its end: the entries of its lines if it is a properties file, and else those of
    its documents. -/
def Reads [Yaml.Loader] (f : SourceFile) (found : Entries) : Prop :=
  (f.isProperties = true ∧ found = parseProperties f.chars) ∨
  (f.isProperties = false ∧ ∃ docs entries, Yaml.Loader.documents f.chars = (docs, none) ∧
    List.Forall₂ (fun d es => flatten d "" = .ok es) docs entries ∧ found = entries.flatten)

theorem flattenAll_eq_iff {docs : List Yaml.Value} {found : List Entries} :
    flattenAll docs = (found, none) ↔ List.Forall₂ (fun d es => flatten d "" = .ok es) docs found := by
  induction docs generalizing found with
  | nil => simp [flattenAll, eq_comm]
  | cons d docs ih =>
    rw [flattenAll, List.forall₂_cons_left_iff]
    cases hd : flatten d "" with
    | error fault => simp
    | ok es =>
      simp only [Except.ok.injEq, Prod.mk.injEq]
      constructor
      · rintro ⟨rfl, hfault⟩
        exact ⟨es, (flattenAll docs).1, rfl, ih.1 (Prod.ext rfl hfault), rfl⟩
      · rintro ⟨_, more, rfl, hmore, rfl⟩
        rw [ih.2 hmore]
        exact ⟨rfl, rfl⟩

/-- A file can be read to its end iff it has no fault, and then its entries are what it holds. -/
theorem reads_iff [Yaml.Loader] {f : SourceFile} {found : Entries} :
    Reads f found ↔ (fileEntries f).2 = none ∧ found = fileSettings f := by
  unfold Reads fileSettings fileEntries
  cases hproperties : f.isProperties with
  | true => simp
  | false =>
    simp only [Bool.false_eq_true, if_false, false_and, true_and, false_or, yamlEntries]
    cases hdocs : Yaml.Loader.documents f.chars with
    | mk docs fault =>
      simp only [Option.or_eq_none_iff, Prod.mk.injEq]
      constructor
      · rintro ⟨_, entries, ⟨rfl, rfl⟩, hflat, rfl⟩
        rw [flattenAll_eq_iff.2 hflat]
        exact ⟨⟨rfl, rfl⟩, rfl⟩
      · rintro ⟨⟨hflat, rfl⟩, rfl⟩
        exact ⟨docs, (flattenAll docs).1, ⟨rfl, rfl⟩, flattenAll_eq_iff.1 (Prod.ext rfl hflat), rfl⟩

theorem fault_load [Yaml.Loader] (s : Store) (f : SourceFile) : (s.load f).2 = (fileEntries f).2 := by
  dsimp only [Store.load]
  split
  · next h => rw [h]
  · next h => rw [h]

/-- Every file with a fault is a problem, and no other. -/
theorem loadSettings_problems [Yaml.Loader] (files : List SourceFile) :
    (loadSettings files).2 = (files.filter fun f => (fileEntries f).2.isSome).map fun f =>
      .failed "microservices" "configuration" (some f.path) := by
  induction files using List.reverseRecOn with
  | nil => rfl
  | append_singleton files f ih =>
    rw [loadSettings_concat, ih, fault_load, List.filter_append, List.map_append]
    cases hfault : (fileEntries f).2 <;> simp [hfault]

/-! ## The deciding file -/

/-- The value that decides on a key: the first one in the least settings file that has the key. -/
def Decides [Yaml.Loader] (files : List SourceFile) (key value : String) : Prop :=
  ∃ f ∈ files, HoldsSettings f ∧ firstValue? f key = some value ∧
    ∀ g ∈ files, HoldsSettings g → (firstValue? g key).isSome → g = f ∨ Precedes f g

instance [Yaml.Loader] (files : List SourceFile) (key value : String) : Decidable (Decides files key value) :=
  inferInstanceAs (Decidable (∃ f ∈ files, _))

theorem Precedes.asymm {f g : SourceFile} (hfg : Precedes f g) : ¬ Precedes g f := by
  intro hgf
  rw [precedes_iff] at hfg hgf
  have hlt : f.path < g.path := (hfg.resolve_left (by omega)).2
  have hgt : g.path < f.path := (hgf.resolve_left (by omega)).2
  exact String.lt_irrefl _ (String.lt_trans hlt hgt)

/-- In a list in strict order, the first element with a value is the least one with a value. -/
theorem findSome?_eq_some_iff_least {α β : Type} {R : α → α → Prop} (hasymm : ∀ {x y}, R x y → ¬ R y x) {xs : List α}
    (hsorted : xs.Pairwise R) {p : α → Option β} {b : β} :
    xs.findSome? p = some b ↔ ∃ x ∈ xs, p x = some b ∧ ∀ y ∈ xs, (p y).isSome → y = x ∨ R x y := by
  induction xs with
  | nil => simp
  | cons a xs ih =>
    obtain ⟨hfirst, hrest⟩ := List.pairwise_cons.1 hsorted
    rw [List.findSome?_cons]
    cases ha : p a with
    | none => simp [ih hrest, ha]
    | some value =>
      dsimp only
      constructor
      · rintro ⟨⟩
        refine ⟨a, List.mem_cons_self, ha, fun y hy _ => ?_⟩
        exact (List.mem_cons.1 hy).imp id (hfirst y)
      · rintro ⟨x, hx, hvalue, hleast⟩
        have hsame : a = x := by
          rcases hleast a List.mem_cons_self (by rw [ha]; rfl) with hsame | hbefore
          · exact hsame
          · -- nothing stands before the head of the list
            rcases List.mem_cons.1 hx with hsame | hx
            · exact hsame.symm
            · exact absurd hbefore (hasymm (hfirst x hx))
        rw [← ha, hsame, hvalue]

theorem decides_iff [Yaml.Loader] {files : List SourceFile} (hpaths : (files.map SourceFile.path).Nodup)
    {key value : String} : Decides files key value ↔ ((selectFiles files).findSome? fun f => firstValue? f key) = some value := by
  rw [findSome?_eq_some_iff_least Precedes.asymm (pairwise_selectFiles hpaths)]
  simp only [mem_selectFiles, and_imp, and_assoc, Decides]

/-- A store that answers as the precedence of files asks; a caller falls back on its own value where no file has the key,
    or an empty value for it. -/
structure FollowsPrecedence [Yaml.Loader] (files : List SourceFile) (s : Store) : Prop where
  decided : ∀ key value, Decides files key value →
    ∀ fallback, (s.get? key).or fallback = if value = "" then fallback else some value
  undecided : ∀ key, (∀ f ∈ files, HoldsSettings f → firstValue? f key = none) →
    ∀ fallback, (s.get? key).or fallback = fallback
  complete : ∀ key, (∃ value, Decides files key value) ∨ ∀ f ∈ files, HoldsSettings f → firstValue? f key = none

theorem followsPrecedence_loadSettings [Yaml.Loader] {files : List SourceFile}
    (hpaths : (files.map SourceFile.path).Nodup) :
    FollowsPrecedence files (loadSettings (selectFiles files)).1 := by
  have hnone {key : String} : ((selectFiles files).findSome? fun f => firstValue? f key) = none ↔
      ∀ f ∈ files, HoldsSettings f → firstValue? f key = none := by
    simp only [List.findSome?_eq_none_iff, mem_selectFiles, and_imp]
  refine ⟨fun key value hdecides fallback => ?_, fun key hkey fallback => ?_, fun key => ?_⟩
  · rw [get?_loadSettings, (decides_iff hpaths).1 hdecides]
    by_cases hempty : value = "" <;> simp [Option.filter_some, hempty]
  · rw [get?_loadSettings, hnone.2 hkey]
    rfl
  · cases hfound : (selectFiles files).findSome? fun f => firstValue? f key with
    | none => exact Or.inr (hnone.1 hfound)
    | some value => exact Or.inl ⟨value, (decides_iff hpaths).2 hfound⟩

/-! ## The order of a corpus -/

theorem detectModules_perm {c : Corpus} {files : List SourceFile} (h : c.files.Perm files) (maxDepth : Int) :
    detectModules maxDepth c = detectModules maxDepth { c with files := files } := by
  have hempty : c.isEmpty = Corpus.isEmpty { c with files := files } := by
    unfold Corpus.isEmpty
    rw [h.isEmpty_eq]
  unfold detectModules
  rw [hempty]
  rfl

theorem moduleStore_perm [Yaml.Loader] {c : Corpus} {files : List SourceFile}
    (hpaths : (files.map SourceFile.path).Nodup) (h : c.files.Perm files) (modules : List BuildModule) (m : BuildModule) :
    moduleStore c modules m = moduleStore { c with files := files } modules m := by
  have howned : ((files.filter fun f => isOwnedBy modules m f.path).map SourceFile.path).Nodup :=
    hpaths.sublist (List.filter_sublist.map SourceFile.path)
  unfold moduleStore
  rw [selectFiles_perm howned (h.filter _)]

/-- **Precedence of settings**: the store of files with distinct paths answers with the first value of the least file that
    has the key. Files that can be read to their ends leave no problem and give all that they hold. The order in which the
    files are listed counts neither for the store nor for the settings of the modules of a corpus. -/
theorem settings_precedence [Yaml.Loader] {files : List SourceFile} (hpaths : (files.map SourceFile.path).Nodup) :
    FollowsPrecedence files (loadSettings (selectFiles files)).1 ∧
    ((∀ f ∈ files, HoldsSettings f → ∃ found, Reads f found) →
      (loadSettings (selectFiles files)).2 = [] ∧ ∀ f ∈ files, HoldsSettings f → Reads f (fileSettings f)) ∧
    (∀ other : List SourceFile, other.Perm files →
      loadSettings (selectFiles other) = loadSettings (selectFiles files)) ∧
    ∀ (c : Corpus) (maxDepth : Int), c.files.Perm files →
      detectModules maxDepth c = detectModules maxDepth { c with files := files } ∧
      ∀ m ∈ detectModules maxDepth c,
        ofStore (moduleStore c (detectModules maxDepth c) m) =
          ofStore (moduleStore { c with files := files } (detectModules maxDepth { c with files := files }) m) := by
  refine ⟨followsPrecedence_loadSettings hpaths, fun hreads => ⟨?_, fun f hf hholds => ?_⟩, fun other hother => ?_,
    fun c maxDepth hfiles => ⟨detectModules_perm hfiles maxDepth, fun m _ => ?_⟩⟩
  · rw [loadSettings_problems, List.map_eq_nil_iff, List.filter_eq_nil_iff]
    intro f hf
    obtain ⟨hf, hholds⟩ := mem_selectFiles.1 hf
    obtain ⟨found, hfound⟩ := hreads f hf hholds
    simp [(reads_iff.1 hfound).1]
  · obtain ⟨found, hfound⟩ := hreads f hf hholds
    exact (reads_iff.1 hfound).2 ▸ hfound
  · rw [selectFiles_perm hpaths hother]
  · rw [detectModules_perm hfiles maxDepth, moduleStore_perm hpaths hfiles]

/-- Files that all set one port, each under a spelling of its own; the last one twice. -/
def overlapping : List SourceFile :=
  [⟨"application-dev.properties", "server.port=9001"⟩, ⟨"application.yml", "server:\n  port: 9002\n"⟩,
    ⟨"bootstrap.properties", "Server.Port: 9003\nserver.port=9004\n"⟩]

theorem settings_precedence_overlapping :
    (overlapping.map SourceFile.path).Nodup ∧
    Decides overlapping "server.port" "9003" ∧
    (loadSettings (selectFiles overlapping)).1.get? "server.port" = some "9003" ∧
    (loadSettings (selectFiles overlapping)).2 = [] ∧
    loadSettings (selectFiles overlapping.reverse) = loadSettings (selectFiles overlapping) := by
  have hpaths : (overlapping.map SourceFile.path).Nodup := by decide
  have hdecides : Decides overlapping "server.port" "9003" := by decide +kernel
  have hfaults : ∀ f ∈ overlapping, (fileEntries f).2 = none := by decide +kernel
  obtain ⟨hfollows, hread, horder, -⟩ := settings_precedence hpaths
  refine ⟨hpaths, hdecides, ?_, ?_, horder _ overlapping.reverse_perm⟩
  · have hport := hfollows.decided _ _ hdecides none
    rwa [Option.or_none, if_neg (by decide)] at hport
  · exact (hread fun f hf _ => ⟨fileSettings f, reads_iff.2 ⟨hfaults f hf, rfl⟩⟩).1

end SpringAtlas.Settings
