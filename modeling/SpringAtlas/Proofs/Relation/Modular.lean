import SpringAtlas.Proofs.Relation.Soundness

/-!
# `Proofs.Relation.Modular` — relations file by file

Every relation of a file starts at the class that the file declares. Merging looks only at relations with the same
source, so files that declare different classes do not see each other: the relations of a corpus are those of its files,
one file after another, and a different order of the files moves whole blocks only.

## Contents
* `declaredType?`, `Corpus.DeclaresDistinct` — the first type of a text, and corpora where no two files share one
* `addFile_append`, `foldl_addFile_eq_flatMap` — one file, and all files, against what was found before
* `relations_modular` — the relations of a corpus as blocks
-/

namespace SpringAtlas

/-! ## Declared types -/

/-- The name of the first type that a source text declares. -/
def declaredType? (text : List Char) : Option (List Char) :=
  (Source.declaration? (Source.mask text)).map Source.TypeDeclaration.name

/-- No two source files declare the same first type. -/
def Corpus.DeclaresDistinct (c : Corpus) : Prop :=
  (c.javaFiles.filterMap fun f => declaredType? f.chars).Nodup

instance (c : Corpus) : Decidable c.DeclaresDistinct :=
  inferInstanceAs (Decidable (List.Nodup _))

theorem scanRelations_source {index : NameIndex} {lookahead : Int} {text : List Char} {file : FileRelations}
    (h : scanRelations index lookahead text = some file) :
    ∃ name, declaredType? text = some name ∧ file.source = String.ofList name := by
  obtain ⟨d, hd, h⟩ := Option.bind_eq_some_iff.1 h
  obtain ⟨owner, howner, h⟩ := Option.bind_eq_some_iff.1 h
  cases h
  refine ⟨d.name, by rw [declaredType?, hd, Option.map_some], ?_⟩
  -- the index answers with a fact of the name it was asked for
  unfold NameIndex.resolve at howner
  split at howner
  · cases howner
  · exact NameIndex.find?_name howner

/-- The sources of the scanned files are among the declared types, in the same order. -/
theorem map_source_sublist (index : NameIndex) (lookahead : Int) (texts : List (List Char)) :
    ((texts.filterMap (scanRelations index lookahead)).map FileRelations.source).Sublist
      ((texts.filterMap declaredType?).map String.ofList) := by
  induction texts with
  | nil => exact .slnil
  | cons text texts ih =>
    cases hscan : scanRelations index lookahead text with
    | none =>
      rw [List.filterMap_cons_none hscan]
      cases hname : declaredType? text with
      | none =>
        rw [List.filterMap_cons_none hname]
        exact ih
      | some name =>
        rw [List.filterMap_cons_some hname, List.map_cons]
        exact ih.cons _
    | some file =>
      obtain ⟨name, hname, hsource⟩ := scanRelations_source hscan
      rw [List.filterMap_cons_some hscan, List.filterMap_cons_some hname, List.map_cons, List.map_cons, hsource]
      exact ih.cons_cons _

/-- Texts of different characters differ. -/
theorem ofList_injective : Function.Injective String.ofList :=
  fun cs ds h => by simpa using congrArg String.toList h

theorem Corpus.DeclaresDistinct.nodup_sources {c : Corpus} (h : c.DeclaresDistinct) (index : NameIndex)
    (lookahead : Int) : ((fileRelations index lookahead c).map FileRelations.source).Nodup := by
  have hnames : ((c.javaFiles.map SourceFile.chars).filterMap declaredType?).Nodup := by
    rw [List.filterMap_map]
    exact h
  exact (hnames.map ofList_injective).sublist (map_source_sublist index lookahead _)

/-- Whether names are declared once does not depend on the order of the files. -/
theorem Corpus.DeclaresDistinct.perm {c : Corpus} (h : c.DeclaresDistinct) {files : List SourceFile}
    (hperm : files.Perm c.files) : ({ c with files } : Corpus).DeclaresDistinct :=
  ((hperm.filter SourceFile.isJava).filterMap _).nodup_iff.2 h

/-! ## Merging beside relations of other classes -/

/-- The relation starts at a class that none of `found` starts at. -/
def Relation.Apart (found : List Relation) (r : Relation) : Prop :=
  ∀ q ∈ found, q.source ≠ r.source

theorem Relation.Apart.any_links {found : List Relation} {r : Relation} (h : r.Apart found) (target : String) :
    (found.any fun q => q.links r.source target) = false := by
  rw [List.any_eq_false]
  intro q hq hlink
  exact h q hq (Relation.links_iff.1 hlink).1

theorem addStrong_append {found acc : List Relation} {r : Relation} (h : r.Apart found) :
    addStrong (found ++ acc) r = found ++ addStrong acc r := by
  have hfound : (found.any fun q => q.links r.source r.target && q.kind == r.kind) = false := by
    rw [List.any_eq_false]
    intro q hq hlink
    exact List.any_eq_false.1 (h.any_links r.target) q hq (Bool.and_eq_true_iff.1 hlink).1
  unfold addStrong
  rw [List.any_append, hfound, Bool.false_or]
  split
  · rfl
  · exact List.append_assoc _ _ _

theorem addWeak_append {found acc : List Relation} {r : Relation} (h : r.Apart found) :
    addWeak (found ++ acc) r = found ++ addWeak acc r := by
  unfold addWeak
  rw [List.any_append, h.any_links, Bool.false_or]
  split
  · rfl
  · exact List.append_assoc _ _ _

theorem foldl_append_left {add : List Relation → Relation → List Relation} {found rs : List Relation}
    (hadd : ∀ acc, ∀ r ∈ rs, add (found ++ acc) r = found ++ add acc r) (acc : List Relation) :
    rs.foldl add (found ++ acc) = found ++ rs.foldl add acc := by
  induction rs generalizing acc with
  | nil => rfl
  | cons r rs ih =>
    rw [List.foldl_cons, List.foldl_cons, hadd acc r (by simp)]
    exact ih (fun acc q hq => hadd acc q (List.mem_cons_of_mem _ hq)) _

variable {index : NameIndex}

/-- **One file beside those of other classes**: it adds what it would add alone. -/
theorem addFile_append {file : FileRelations} (hv : file.Valid index) {found : List Relation}
    (h : ∀ q ∈ found, q.source ≠ file.source) : addFile found file = found ++ addFile [] file := by
  have hstrong : ∀ r ∈ file.strong, r.Apart found := fun r hr q hq => (hv.strong r hr).2.2 ▸ h q hq
  have hweak : ∀ r ∈ file.weak, r.Apart found := fun r hr q hq => (hv.weak r hr).2.2 ▸ h q hq
  unfold addFile
  have hfirst : file.strong.foldl addStrong found = found ++ file.strong.foldl addStrong [] := by
    simpa using foldl_append_left (fun acc r hr => addStrong_append (hstrong r hr)) []
  rw [hfirst]
  exact foldl_append_left (fun acc r hr => addWeak_append (hweak r hr)) _

theorem source_of_mem_addFile {file : FileRelations} (hv : file.Valid index) {q : Relation}
    (h : q ∈ addFile [] file) : q.source = file.source := by
  rcases mem_addFile h with h | h | h
  · cases h
  · exact (hv.strong q h).2.2
  · exact (hv.weak q h).2.2

/-- **All files**: the merge puts the relations of the files one behind the other. The invariant is that nothing found
    so far starts at a class of a file still to come. -/
theorem foldl_addFile_eq_flatMap {files : List FileRelations} (hv : ∀ file ∈ files, file.Valid index)
    (hdistinct : (files.map FileRelations.source).Nodup) {found : List Relation}
    (hfound : ∀ file ∈ files, ∀ q ∈ found, q.source ≠ file.source) :
    files.foldl addFile found = found ++ files.flatMap (addFile []) := by
  induction files generalizing found with
  | nil => simp
  | cons file files ih =>
    obtain ⟨hnew, hdistinct⟩ := List.nodup_cons.1 hdistinct
    have hfile := hv file (by simp)
    rw [List.foldl_cons, List.flatMap_cons, addFile_append hfile (hfound file (by simp)),
      ih (fun g hg => hv g (List.mem_cons_of_mem _ hg)) hdistinct, List.append_assoc]
    intro g hg q hq
    rcases List.mem_append.1 hq with hq | hq
    · exact hfound g (List.mem_cons_of_mem _ hg) q hq
    · rw [source_of_mem_addFile hfile hq]
      intro he
      exact hnew (he ▸ List.mem_map_of_mem hg)

/-! ## Corpora -/

/-- The relations of one source file alone. -/
def relationsAlone (index : NameIndex) (lookahead : Int) (f : SourceFile) : List Relation :=
  relations index lookahead { files := [f], descriptors := [] }

theorem relationsAlone_eq (index : NameIndex) (lookahead : Int) {f : SourceFile} (h : f.isJava) :
    relationsAlone index lookahead f = (scanRelations index lookahead f.chars).toList.flatMap (addFile []) := by
  have hjava : Corpus.javaFiles { files := [f], descriptors := [] } = [f] := by
    simp [Corpus.javaFiles, h]
  rw [relationsAlone, relations_eq, fileRelations, hjava, List.map_singleton]
  cases hscan : scanRelations index lookahead f.chars with
  | none => simp [hscan]
  | some file => simp [hscan]

theorem flatMap_relationsAlone (index : NameIndex) (lookahead : Int) {fs : List SourceFile} (h : ∀ f ∈ fs, f.isJava) :
    fs.flatMap (relationsAlone index lookahead) =
      ((fs.map SourceFile.chars).filterMap (scanRelations index lookahead)).flatMap (addFile []) := by
  induction fs with
  | nil => rfl
  | cons f fs ih =>
    rw [List.flatMap_cons, relationsAlone_eq index lookahead (h f (by simp)),
      ih fun g hg => h g (List.mem_cons_of_mem _ hg), List.map_cons]
    cases hscan : scanRelations index lookahead f.chars with
    | none =>
      rw [List.filterMap_cons_none hscan]
      rfl
    | some file =>
      rw [List.filterMap_cons_some hscan, List.flatMap_cons]
      simp

/-- **Where no name is declared twice, the relations of a corpus are those of its files**, one file behind another. -/
theorem Corpus.DeclaresDistinct.relations_eq {c : Corpus} (h : c.DeclaresDistinct) (index : NameIndex)
    (lookahead : Int) : relations index lookahead c = (c.javaFiles.map (relationsAlone index lookahead)).flatten := by
  have hjava : ∀ f ∈ c.javaFiles, f.isJava := fun f hf => (List.mem_filter.1 hf).2
  have hvalid : ∀ file ∈ fileRelations index lookahead c, file.Valid index := fun _ => fileRelations_valid
  have hmerge : (fileRelations index lookahead c).foldl addFile [] =
      (fileRelations index lookahead c).flatMap (addFile []) :=
    foldl_addFile_eq_flatMap hvalid (h.nodup_sources index lookahead) (by simp)
  rw [← List.flatMap_def, flatMap_relationsAlone index lookahead hjava, SpringAtlas.relations_eq, hmerge]
  rfl

/-- **Scanning for relations is modular.** Where no two source files declare the same first type, the relations of a
    corpus are those of its files alone, in order; the same files in another order give the same blocks in that
    order. -/
theorem relations_modular (index : NameIndex) (lookahead : Int) (c : Corpus) (h : c.DeclaresDistinct) :
    relations index lookahead c = (c.javaFiles.map (relationsAlone index lookahead)).flatten ∧
    ∀ files : List SourceFile, files.Perm c.files →
      ((files.filter SourceFile.isJava).map (relationsAlone index lookahead)).Perm
        (c.javaFiles.map (relationsAlone index lookahead)) ∧
      relations index lookahead { c with files } =
        ((files.filter SourceFile.isJava).map (relationsAlone index lookahead)).flatten := by
  refine ⟨h.relations_eq index lookahead, fun files hperm => ⟨?_, ?_⟩⟩
  · exact (hperm.filter SourceFile.isJava).map _
  · exact (h.perm hperm).relations_eq index lookahead

/-- Three classes, one of which has no relation of its own. -/
def chainCorpus : Corpus where
  files := [⟨"A.java", "class A extends B \x7b private C c; \x7d"⟩, ⟨"C.java", "class C \x7b\x7d"⟩,
    ⟨"B.java", "class B \x7b private C c; private A a; \x7d"⟩]
  descriptors := []

/-- The facts of the three classes. -/
def chainIndex : NameIndex :=
  .ofFacts [{ name := "A" }, { name := "B" }, { name := "C" }]

/-- With the files turned round, the block of `B` comes first. -/
theorem relations_modular_chain :
    chainCorpus.DeclaresDistinct ∧
    relations chainIndex 4 chainCorpus =
      [⟨"A", "B", .extends, none⟩, ⟨"A", "C", .uses, some "c"⟩, ⟨"B", "C", .uses, some "c"⟩,
        ⟨"B", "A", .uses, some "a"⟩] ∧
    relations chainIndex 4 { chainCorpus with files := chainCorpus.files.reverse } =
      [⟨"B", "C", .uses, some "c"⟩, ⟨"B", "A", .uses, some "a"⟩, ⟨"A", "B", .extends, none⟩,
        ⟨"A", "C", .uses, some "c"⟩] := by
  have hdistinct : chainCorpus.DeclaresDistinct := by
    decide +kernel
  obtain ⟨hblocks, hperm⟩ := relations_modular chainIndex 4 chainCorpus hdistinct
  obtain ⟨-, hreversed⟩ := hperm chainCorpus.files.reverse (List.reverse_perm _)
  rw [hblocks, hreversed]
  decide +kernel

end SpringAtlas
