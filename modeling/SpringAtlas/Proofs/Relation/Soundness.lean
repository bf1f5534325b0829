import Mathlib.Data.List.Nodup
import SpringAtlas.Proofs.Fact.Index
import SpringAtlas.Relation.Build

/-!
# `Proofs.Relation.Soundness` — the relations of a corpus are sound

Relations are found file by file by five readers and then merged. Each reader hands its references to one resolver,
so what a single relation has to be is proved there once (`Relation.Valid`), and a file adds only which kinds it can
show (`FileRelations.Valid`). Merging adds nothing of its own, and it never adds a second relation of a kind between
two classes; that is an invariant of every step (`addFile_distinct`).

## Contents
* `Relation.Valid`, `FileRelations.Valid`, `scanRelations_valid` — one file
* `DistinctRelations`, `addFile_distinct`, `mem_addFile` — one step of the merge
* `relations_sound` — the whole merge
-/

namespace SpringAtlas

deriving instance ReflBEq, LawfulBEq for RelationKind, Stereotype

/-! ## One relation -/

/-- What the index knows about the two ends of a relation. -/
structure Relation.Valid (index : NameIndex) (r : Relation) : Prop where
  source_known : r.source ∈ index.names
  target_known : r.target ∈ index.names
  source_ne_target : r.source ≠ r.target
  /-- associations of persistent classes start at entities -/
  entity_of_persistence : r.kind.isPersistence →
    ∃ f, index.find? r.source = some f ∧ (f.stereotype = .entity ∨ "Entity" ∈ f.annotations)

/-- A reference resolves to a relation of its own kind, from the class that makes it to another known class. -/
theorem Reference.resolve?_eq_some {index : NameIndex} {source : String} {ref : Reference} {r : Relation}
    (h : ref.resolve? index source = some r) :
    r.source = source ∧ r.kind = ref.kind ∧ r.target ∈ index.names ∧ r.source ≠ r.target := by
  obtain ⟨f, hf, rfl⟩ := Option.map_eq_some_iff.1 h
  obtain ⟨hf, hne⟩ := Option.filter_eq_some_iff.1 hf
  refine ⟨rfl, rfl, NameIndex.name_mem_names (NameIndex.find?_of_resolve hf), ?_⟩
  intro he
  have hname : f.name ≠ source := by simpa using hne
  exact hname he.symm

/-! ## The kinds that a file can show -/

/-- A supertype is extended or implemented. -/
theorem supertypeReferences_kind {d : Source.TypeDeclaration} {ref : Reference}
    (h : ref ∈ supertypeReferences d) : ref.kind = .extends ∨ ref.kind = .implements := by
  rcases List.mem_append.1 h with h | h
  · obtain ⟨t, -, rfl⟩ := Option.map_eq_some_iff.1 (Option.mem_toList.1 h)
    exact Or.inl rfl
  · obtain ⟨t, -, rfl⟩ := List.mem_map.1 h
    exact Or.inr rfl

/-- References of a pattern have the kind that is asked for. -/
theorem fieldsOf_kind {p : Pattern} {kind : RelationKind} {masked : List Char} {ref : Reference}
    (h : ref ∈ fieldsOf p kind masked) : ref.kind = kind := by
  obtain ⟨m, -, rfl⟩ := List.mem_map.1 h
  rfl

/-- What a constructor takes is injected. -/
theorem constructorReferences_kind {masked className : List Char} {m : Match} {ref : Reference}
    (h : ref ∈ constructorReferences masked className m) : ref.kind = .injects := by
  unfold constructorReferences at h
  split at h
  · obtain ⟨p, -, rfl⟩ := List.mem_map.1 h
    rfl
  · simp at h

/-- Annotated fields, constructor parameters and final fields are all said to be injected. -/
theorem injectionReferences_kind {masked className : List Char} {ref : Reference}
    (h : ref ∈ injectionReferences masked className) : ref.kind = .injects := by
  unfold injectionReferences at h
  rcases List.mem_append.1 h with h | h
  · rcases List.mem_append.1 h with h | h
    · exact fieldsOf_kind h
    · obtain ⟨m, -, h⟩ := List.mem_flatMap.1 h
      exact constructorReferences_kind h
  · exact fieldsOf_kind h

/-- Every name of an association stands for a kind between entities. -/
theorem associationKind_isPersistence (name : List Char) : (associationKind name).isPersistence := by
  unfold associationKind
  split
  · rfl
  split
  · rfl
  split <;> rfl

/-- A line of associations gives only kinds between entities. -/
theorem lineAssociations_isPersistence {line : List Char} {following : List (List Char)} {ref : Reference}
    (h : ref ∈ lineAssociations line following) : ref.kind.isPersistence := by
  obtain ⟨m, -, h⟩ := List.mem_filterMap.1 h
  obtain ⟨l, -, hl⟩ := List.exists_of_findSome?_eq_some h
  obtain ⟨f, -, rfl⟩ := Option.map_eq_some_iff.1 hl
  exact associationKind_isPersistence _

/-- The associations of a text have only kinds between entities. -/
theorem associationsFrom_isPersistence {lookahead : Int} {count i : Nat} {lines : List (List Char)}
    {ref : Reference} (h : ref ∈ associationsFrom lookahead count i lines) : ref.kind.isPersistence := by
  induction lines generalizing i with
  | nil => simp [associationsFrom] at h
  | cons line rest ih =>
    rcases List.mem_append.1 h with h | h
    · exact lineAssociations_isPersistence h
    · exact ih h

/-- A strong reference is no mere use, and only entities make the kinds between entities. -/
theorem strongReferences_kind {lookahead : Int} {masked : List Char} {d : Source.TypeDeclaration}
    {owner : ClassFact} {ref : Reference} (h : ref ∈ strongReferences lookahead masked d owner) :
    ref.kind ≠ .uses ∧ (ref.kind.isPersistence → owner.isEntity) := by
  rcases List.mem_append.1 h with h | h
  · rcases List.mem_append.1 h with h | h
    · rcases supertypeReferences_kind h with hk | hk <;> simp [hk, RelationKind.isPersistence]
    · simp [injectionReferences_kind h, RelationKind.isPersistence]
  · split at h
    · next hent =>
      have hk := associationsFrom_isPersistence h
      refine ⟨?_, fun _ => hent⟩
      intro he
      simp [he, RelationKind.isPersistence] at hk
    · simp at h

/-! ## One file -/

/-- What a file contributes to the merge. -/
structure FileRelations.Valid (index : NameIndex) (file : FileRelations) : Prop where
  strong : ∀ r ∈ file.strong, r.Valid index ∧ r.kind ≠ .uses ∧ r.source = file.source
  weak : ∀ r ∈ file.weak, r.Valid index ∧ r.kind = .uses ∧ r.source = file.source

/-- A class is an entity by its stereotype or by its annotation. -/
theorem ClassFact.isEntity_iff {f : ClassFact} :
    f.isEntity ↔ f.stereotype = .entity ∨ "Entity" ∈ f.annotations := by
  simp [isEntity, hasAnnotation]

/-- **A scanned file is valid.** -/
theorem scanRelations_valid {index : NameIndex} {lookahead : Int} {text : List Char} {file : FileRelations}
    (h : scanRelations index lookahead text = some file) : file.Valid index := by
  obtain ⟨d, -, h⟩ := Option.bind_eq_some_iff.1 h
  obtain ⟨owner, howner, h⟩ := Option.bind_eq_some_iff.1 h
  obtain rfl := Option.some.inj h
  have hfind := NameIndex.find?_of_resolve howner
  have hsource := NameIndex.name_mem_names hfind
  constructor
  · intro r hr
    obtain ⟨ref, href, hr⟩ := List.mem_filterMap.1 hr
    obtain ⟨hs, hk, ht, hne⟩ := Reference.resolve?_eq_some hr
    obtain ⟨huses, hent⟩ := strongReferences_kind href
    refine ⟨⟨hs ▸ hsource, ht, hne, fun hp => ⟨owner, hs ▸ hfind, ?_⟩⟩, hk ▸ huses, hs⟩
    exact ClassFact.isEntity_iff.1 (hent (hk ▸ hp))
  · intro r hr
    obtain ⟨ref, href, hr⟩ := List.mem_filterMap.1 hr
    obtain ⟨hs, hk, ht, hne⟩ := Reference.resolve?_eq_some hr
    have huses : r.kind = .uses := hk.trans (fieldsOf_kind href)
    refine ⟨⟨hs ▸ hsource, ht, hne, fun hp => ?_⟩, huses, hs⟩
    -- a plain field is no association
    simp [huses, RelationKind.isPersistence] at hp

/-! ## Merging -/

/-- A relation links its source to its target, and not the other way round. -/
theorem Relation.links_iff {r : Relation} {s t : String} : r.links s t ↔ r.source = s ∧ r.target = t := by
  simp [links]

/-- Adding a strong relation adds that relation at most. -/
theorem mem_addStrong {found : List Relation} {r q : Relation} (h : q ∈ addStrong found r) :
    q ∈ found ∨ q = r := by
  unfold addStrong at h
  split at h
  · exact Or.inl h
  · simpa using h

/-- Adding a weak relation adds that relation at most. -/
theorem mem_addWeak {found : List Relation} {r q : Relation} (h : q ∈ addWeak found r) :
    q ∈ found ∨ q = r := by
  unfold addWeak at h
  split at h
  · exact Or.inl h
  · simpa using h

/-- The relations of a file bring in no others. -/
theorem mem_addFile {found : List Relation} {file : FileRelations} {q : Relation} (h : q ∈ addFile found file) :
    q ∈ found ∨ q ∈ file.strong ∨ q ∈ file.weak := by
  rcases mem_foldl id addWeak mem_addWeak h with h | ⟨r, hr, rfl⟩
  · rcases mem_foldl id addStrong mem_addStrong h with h | ⟨r, hr, rfl⟩
    · exact Or.inl h
    · exact Or.inr (Or.inl hr)
  · exact Or.inr (Or.inr hr)

/-! ## Distinct relations -/

/-- No two relations of one kind between the same classes. -/
def DistinctRelations (rs : List Relation) : Prop :=
  (rs.map fun r => (r.source, r.target, r.kind)).Nodup

/-- A relation can be added whose ends are not linked by a relation of its kind yet. -/
theorem DistinctRelations.append {found : List Relation} {r : Relation} (h : DistinctRelations found)
    (hr : ∀ q ∈ found, ¬ (q.links r.source r.target ∧ q.kind = r.kind)) : DistinctRelations (found ++ [r]) := by
  unfold DistinctRelations at h ⊢
  rw [List.map_append, List.nodup_append]
  refine ⟨h, List.nodup_singleton _, ?_⟩
  rintro k hk k' hk' rfl
  obtain ⟨q, hq, he⟩ := List.mem_map.1 hk
  rw [List.map_singleton, List.mem_singleton] at hk'
  obtain ⟨hs, ht⟩ := Prod.mk.inj (he.trans hk')
  obtain ⟨ht, hkind⟩ := Prod.mk.inj ht
  exact hr q hq ⟨Relation.links_iff.2 ⟨hs, ht⟩, hkind⟩

/-- A strong relation is added only if its kind is new between its ends. -/
theorem addStrong_distinct {found : List Relation} (r : Relation) (h : DistinctRelations found) :
    DistinctRelations (addStrong found r) := by
  unfold addStrong
  split
  · exact h
  · next hnew =>
    refine h.append fun q hq hlink => hnew ?_
    exact List.any_eq_true.2 ⟨q, hq, by simp [hlink]⟩

/-- A weak relation is added only if nothing links its ends. -/
theorem addWeak_distinct {found : List Relation} (r : Relation) (h : DistinctRelations found) :
    DistinctRelations (addWeak found r) := by
  unfold addWeak
  split
  · exact h
  · next hnew =>
    refine h.append fun q hq hlink => hnew ?_
    exact List.any_eq_true.2 ⟨q, hq, hlink.1⟩

/-- Relations that every step keeps distinct are distinct in the end. -/
theorem foldl_distinct {α : Type} {add : List Relation → α → List Relation}
    (hadd : ∀ {found} a, DistinctRelations found → DistinctRelations (add found a)) {as : List α} {found : List Relation}
    (h : DistinctRelations found) : DistinctRelations (as.foldl add found) := by
  induction as generalizing found with
  | nil => exact h
  | cons a as ih => exact ih (hadd a h)

/-- Adding the relations of a file, the strong ones before the weak ones, keeps them distinct. -/
theorem addFile_distinct {found : List Relation} (file : FileRelations) (h : DistinctRelations found) :
    DistinctRelations (addFile found file) :=
  foldl_distinct addWeak_distinct (foldl_distinct addStrong_distinct h)

/-! ## The relations of a corpus -/

/-- What the source files of a corpus contribute, in order. -/
def fileRelations (index : NameIndex) (lookahead : Int) (corpus : Corpus) : List FileRelations :=
  (corpus.javaFiles.map SourceFile.chars).filterMap (scanRelations index lookahead)

/-- The relations of a corpus are added file by file. -/
theorem relations_eq (index : NameIndex) (lookahead : Int) (corpus : Corpus) :
    relations index lookahead corpus = (fileRelations index lookahead corpus).foldl addFile [] := rfl

/-- What a file refers to gives valid relations before they are merged. -/
theorem fileRelations_valid {index : NameIndex} {lookahead : Int} {corpus : Corpus} {file : FileRelations}
    (h : file ∈ fileRelations index lookahead corpus) : file.Valid index := by
  obtain ⟨text, -, h⟩ := List.mem_filterMap.1 h
  exact scanRelations_valid h

/-- **Every relation of a corpus is valid**: merging drops relations and makes none. -/
theorem relations_valid {index : NameIndex} {lookahead : Int} {corpus : Corpus} {r : Relation}
    (h : r ∈ relations index lookahead corpus) : r.Valid index := by
  rcases mem_foldl id addFile mem_addFile h with h | ⟨file, hfile, h | h⟩
  · simp at h
  · exact ((fileRelations_valid hfile).strong r h).1
  · exact ((fileRelations_valid hfile).weak r h).1

/-- **No two relations of a corpus have the same ends and the same kind.** -/
theorem relations_distinct (index : NameIndex) (lookahead : Int) (corpus : Corpus) :
    DistinctRelations (relations index lookahead corpus) :=
  foldl_distinct addFile_distinct List.nodup_nil

/-- Relations of one kind between two given classes are at most one. -/
theorem DistinctRelations.length_filter_le_one {rs : List Relation} (h : DistinctRelations rs) (kind : RelationKind)
    (s t : String) : (rs.filter fun r => r.links s t && r.kind == kind).length ≤ 1 := by
  -- all relations counted have one key, and no key occurs twice
  have hnodup : ((rs.filter fun r => r.links s t && r.kind == kind).map
      fun r => (r.source, r.target, r.kind)).Nodup := h.sublist (List.filter_sublist.map _)
  have hconst : (rs.filter fun r => r.links s t && r.kind == kind).map (fun r => (r.source, r.target, r.kind)) =
      List.replicate (rs.filter fun r => r.links s t && r.kind == kind).length (s, t, kind) := by
    rw [List.eq_replicate_iff]
    refine ⟨List.length_map _, fun k hk => ?_⟩
    obtain ⟨r, hr, rfl⟩ := List.mem_map.1 hk
    have hr := (List.mem_filter.1 hr).2
    simp only [Bool.and_eq_true, Relation.links_iff, beq_iff_eq] at hr
    rw [hr.1.1, hr.1.2, hr.2]
  rw [hconst, List.nodup_replicate] at hnodup
  exact hnodup

/-- **The relations of a corpus are sound.** Every relation joins two different classes of the index, no two relations
    have the same ends and kind, at most one plain use leads from one class to another, and associations start at
    entities. -/
theorem relations_sound (index : NameIndex) (lookahead : Int) (corpus : Corpus) :
    (∀ r ∈ relations index lookahead corpus,
      r.source ∈ index.names ∧ r.target ∈ index.names ∧ r.source ≠ r.target ∧
      (r.kind.isPersistence → ∃ f, index.find? r.source = some f ∧
        (f.stereotype = .entity ∨ "Entity" ∈ f.annotations))) ∧
    ((relations index lookahead corpus).map fun r => (r.source, r.target, r.kind)).Nodup ∧
    ∀ s t, ((relations index lookahead corpus).filter fun r => r.links s t && r.kind == .uses).length ≤ 1 := by
  refine ⟨fun r hr => ?_, relations_distinct index lookahead corpus, fun s t => ?_⟩
  · have hv := relations_valid hr
    exact ⟨hv.source_known, hv.target_known, hv.source_ne_target, hv.entity_of_persistence⟩
  · exact (relations_distinct index lookahead corpus).length_filter_le_one .uses s t

end SpringAtlas
