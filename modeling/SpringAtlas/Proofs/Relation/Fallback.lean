import Mathlib.Data.List.Induction
import SpringAtlas.Proofs.Fact.Extract
import SpringAtlas.Proofs.Relation.Soundness

/-!
# `Proofs.Relation.Fallback` — when a plain use stands beside another relation

A plain field makes a relation only where its class is not linked to the other class already. "Already" is meant in
the order of the files: a use stays when a later file adds a relation of another kind between the two classes. Since
every relation of a file starts at the class that the file declares, that takes two files that declare the same name.

The merge is described by what it holds between two classes `s` and `t`: `has_foldl_addFile_strong` and
`has_foldl_addFile_uses` say, of the list after any number of files, which kinds it has. The condition under which uses
are only a fallback follows from the two.

## Contents
* `Linked`, `Has`, `has_addFile` — one step of the merge, kind by kind
* `has_foldl_addFile_strong`, `has_foldl_addFile_uses` — the whole merge
* `UsesAreFallback`, `usesAreFallback_relations_iff` — the exact condition, and a corpus that misses it
-/

namespace SpringAtlas

/-- Some relation between two classes. -/
def Linked (rs : List Relation) (s t : String) : Prop :=
  ∃ r ∈ rs, r.links s t

/-- A relation of a kind between two classes. -/
def Has (rs : List Relation) (s t : String) (k : RelationKind) : Prop :=
  ∃ r ∈ rs, r.links s t ∧ r.kind = k

variable {s t : String} {k : RelationKind}

/-- A relation of some kind links its ends. -/
theorem Has.linked {rs : List Relation} (h : Has rs s t k) : Linked rs s t :=
  h.imp fun _ hr => ⟨hr.1, hr.2.1⟩

/-- Two classes are linked by a relation of some kind. -/
theorem linked_iff_exists_has {rs : List Relation} : Linked rs s t ↔ ∃ k, Has rs s t k :=
  ⟨fun ⟨r, hr, hl⟩ => ⟨r.kind, r, hr, hl, rfl⟩, fun ⟨_, h⟩ => h.linked⟩

theorem has_nil : ¬ Has [] s t k := by
  simp [Has]

theorem has_cons {r : Relation} {rs : List Relation} :
    Has (r :: rs) s t k ↔ (r.links s t ∧ r.kind = k) ∨ Has rs s t k := by
  simp only [Has, List.mem_cons, or_and_right, exists_or, exists_eq_left]

theorem has_append_singleton {found : List Relation} {r : Relation} :
    Has (found ++ [r]) s t k ↔ Has found s t k ∨ (r.links s t ∧ r.kind = k) := by
  simp only [Has, List.mem_append, List.mem_singleton, or_and_right, exists_or, exists_eq_left]

/-! ## One relation -/

/-- A strong relation is there after it has been added. -/
theorem has_addStrong {found : List Relation} {r : Relation} :
    Has (addStrong found r) s t k ↔ Has found s t k ∨ (r.links s t ∧ r.kind = k) := by
  unfold addStrong
  split
  · next hany =>
    -- the relation that keeps `r` out has its ends and its kind
    obtain ⟨q, hq, hqr⟩ := List.any_eq_true.1 hany
    simp only [Bool.and_eq_true, beq_iff_eq, Relation.links_iff] at hqr
    refine ⟨Or.inl, fun h => h.elim id fun ⟨hl, hk⟩ => ⟨q, hq, ?_, hqr.2.trans hk⟩⟩
    rw [Relation.links_iff] at hl ⊢
    exact ⟨hqr.1.1.trans hl.1, hqr.1.2.trans hl.2⟩
  · exact has_append_singleton

theorem any_links_iff {found : List Relation} {r : Relation} (h : r.links s t) :
    (found.any fun q => q.links r.source r.target) = true ↔ Linked found s t := by
  obtain ⟨rfl, rfl⟩ := Relation.links_iff.1 h
  exact List.any_eq_true

/-- A weak relation is there after it has been added if its ends were not linked before. -/
theorem has_addWeak {found : List Relation} {r : Relation} :
    Has (addWeak found r) s t k ↔ Has found s t k ∨ (¬ Linked found s t ∧ r.links s t ∧ r.kind = k) := by
  unfold addWeak
  split
  · next hany =>
    refine ⟨Or.inl, fun h => h.elim id fun ⟨hnone, hl, _⟩ => ?_⟩
    exact absurd ((any_links_iff hl).1 hany) hnone
  · next hany =>
    rw [has_append_singleton]
    exact or_congr Iff.rfl ⟨fun ⟨hl, hk⟩ => ⟨fun hlinked => hany ((any_links_iff hl).2 hlinked), hl, hk⟩, And.right⟩

theorem linked_addWeak {found : List Relation} {r : Relation} :
    Linked (addWeak found r) s t ↔ Linked found s t ∨ r.links s t := by
  constructor
  · rintro ⟨q, hq, hl⟩
    rcases mem_addWeak hq with hq | rfl
    · exact Or.inl ⟨q, hq, hl⟩
    · exact Or.inr hl
  · intro h
    by_cases hf : Linked found s t
    · obtain ⟨k, hk⟩ := linked_iff_exists_has.1 hf
      exact (has_addWeak.2 (Or.inl hk)).linked
    · exact (has_addWeak.2 (Or.inr ⟨hf, h.resolve_left hf, rfl⟩)).linked

/-! ## One file -/

theorem has_foldl_addStrong {rs found : List Relation} :
    Has (rs.foldl addStrong found) s t k ↔ Has found s t k ∨ Has rs s t k := by
  induction rs generalizing found with
  | nil => simp [has_nil]
  | cons r rs ih => rw [List.foldl_cons, ih, has_addStrong, has_cons, or_assoc]

theorem linked_foldl_addStrong {rs found : List Relation} :
    Linked (rs.foldl addStrong found) s t ↔ Linked found s t ∨ Linked rs s t := by
  simp only [linked_iff_exists_has, has_foldl_addStrong, exists_or]

/-- Of several weak relations those are added whose ends were not linked before. -/
theorem has_foldl_addWeak {rs found : List Relation} (huses : ∀ r ∈ rs, r.kind = .uses) :
    Has (rs.foldl addWeak found) s t k ↔ Has found s t k ∨ (¬ Linked found s t ∧ Has rs s t k) := by
  induction rs generalizing found with
  | nil => simp [has_nil]
  | cons r rs ih =>
    have hkind : Has rs s t k → r.kind = k := by
      rintro ⟨q, hq, -, rfl⟩
      rw [huses r (by simp), huses q (List.mem_cons_of_mem _ hq)]
    rw [List.foldl_cons, ih fun q hq => huses q (List.mem_cons_of_mem _ hq), has_addWeak, linked_addWeak, has_cons]
    by_cases hl : r.links s t <;> tauto

/-- **One file of the merge.** The strong relations of the file are added; its plain fields count where neither an
    earlier file nor the file itself links the two classes. -/
theorem has_addFile {index : NameIndex} {found : List Relation} {file : FileRelations} (hv : file.Valid index) :
    Has (addFile found file) s t k ↔
      Has found s t k ∨ Has file.strong s t k ∨
      (¬ Linked found s t ∧ ¬ Linked file.strong s t ∧ Has file.weak s t k) := by
  rw [addFile, has_foldl_addWeak fun r hr => (hv.weak r hr).2.1, has_foldl_addStrong, linked_foldl_addStrong]
  tauto

/-! ## The whole merge -/

section
variable {index : NameIndex} {files : List FileRelations}

theorem FileRelations.Valid.not_has_strong_uses {file : FileRelations} (hv : file.Valid index) :
    ¬ Has file.strong s t .uses :=
  fun ⟨r, hr, _, hk⟩ => (hv.strong r hr).2.1 hk

theorem FileRelations.Valid.kind_eq_uses {file : FileRelations} (hv : file.Valid index) (h : Has file.weak s t k) :
    k = .uses := by
  obtain ⟨r, hr, -, rfl⟩ := h
  exact (hv.weak r hr).2.1

/-- **A strong relation is there if a file shows it.** -/
theorem has_foldl_addFile_strong (hv : ∀ file ∈ files, file.Valid index) (hk : k ≠ .uses) :
    Has (files.foldl addFile []) s t k ↔ ∃ file ∈ files, Has file.strong s t k := by
  induction files using List.reverseRecOn with
  | nil => simp [has_nil]
  | append_singleton files file ih =>
    -- the last file decides: its plain fields are of the one kind that is ruled out here
    have hfile := hv file (by simp)
    have hweak : ¬ Has file.weak s t k := fun h => hk (hfile.kind_eq_uses h)
    rw [List.foldl_append, List.foldl_cons, List.foldl_nil, has_addFile hfile,
      ih fun g hg => hv g (List.mem_append_left _ hg)]
    simp only [List.mem_append, List.mem_singleton, or_and_right, exists_or, exists_eq_left, hweak, and_false, or_false]

/-- A file whose plain fields lead from `s` to `t` while no strong relation up to it does. -/
def FirstLinkIsUse (files : List FileRelations) (s t : String) : Prop :=
  ∃ pre file post, files = pre ++ file :: post ∧ Linked file.weak s t ∧
    ∀ g ∈ pre ++ [file], ¬ Linked g.strong s t

theorem firstLinkIsUse_concat {file : FileRelations} :
    FirstLinkIsUse (files ++ [file]) s t ↔
      FirstLinkIsUse files s t ∨ (Linked file.weak s t ∧ ∀ g ∈ files ++ [file], ¬ Linked g.strong s t) := by
  constructor
  · rintro ⟨pre, f, post, he, hweak, hstrong⟩
    rcases List.eq_nil_or_concat post with rfl | ⟨post, g, rfl⟩
    · obtain ⟨rfl, hlast⟩ := List.append_inj' he rfl
      cases hlast
      exact Or.inr ⟨hweak, hstrong⟩
    · have he' : files ++ [file] = (pre ++ f :: post) ++ [g] := by simpa using he
      obtain ⟨rfl, -⟩ := List.append_inj' he' rfl
      exact Or.inl ⟨pre, f, post, rfl, hweak, hstrong⟩
  · rintro (⟨pre, f, post, rfl, hweak, hstrong⟩ | ⟨hweak, hstrong⟩)
    · exact ⟨pre, f, post ++ [file], by simp, hweak, hstrong⟩
    · exact ⟨files, file, [], rfl, hweak, hstrong⟩

/-- **A use is there if it was the first link between its ends**, in the order of the files. -/
theorem has_foldl_addFile_uses (hv : ∀ file ∈ files, file.Valid index) :
    Has (files.foldl addFile []) s t .uses ↔ FirstLinkIsUse files s t := by
  induction files using List.reverseRecOn with
  | nil => simp [has_nil, FirstLinkIsUse]
  | append_singleton files file ih =>
    have hfile := hv file (by simp)
    have hfiles : ∀ g ∈ files, g.Valid index := fun g hg => hv g (List.mem_append_left _ hg)
    rw [List.foldl_append, List.foldl_cons, List.foldl_nil, has_addFile hfile, firstLinkIsUse_concat, ← ih hfiles]
    constructor
    · rintro (h | h | ⟨hfound, hstrong, hweak⟩)
      · exact Or.inl h
      · exact absurd h hfile.not_has_strong_uses
      · refine Or.inr ⟨hweak.linked, fun g hg hlink => ?_⟩
        rcases List.mem_append.1 hg with hg | hg
        · -- a strong relation of an earlier file would link the two classes by now
          obtain ⟨k, hk⟩ := linked_iff_exists_has.1 hlink
          have hne : k ≠ .uses := fun he => (hfiles g hg).not_has_strong_uses (he ▸ hk)
          exact hfound ((has_foldl_addFile_strong hfiles hne).2 ⟨g, hg, hk⟩).linked
        · obtain rfl := List.mem_singleton.1 hg
          exact hstrong hlink
    · rintro (h | ⟨hweak, hstrong⟩)
      · exact Or.inl h
      · by_cases huse : Has (files.foldl addFile []) s t .uses
        · exact Or.inl huse
        · obtain ⟨k, hk⟩ := linked_iff_exists_has.1 hweak
          refine Or.inr (Or.inr ⟨fun hfound => ?_, hstrong file (by simp), hfile.kind_eq_uses hk ▸ hk⟩)
          obtain ⟨k, hk⟩ := linked_iff_exists_has.1 hfound
          have hne : k ≠ .uses := fun he => huse (he ▸ hk)
          obtain ⟨g, hg, hgk⟩ := (has_foldl_addFile_strong hfiles hne).1 hk
          exact hstrong g (List.mem_append_left _ hg) hgk.linked

end

/-! ## The condition -/

/-- Where a plain use leads from one class to another, no relation of another kind does. -/
def UsesAreFallback (rs : List Relation) : Prop :=
  ∀ u ∈ rs, u.kind = .uses → ∀ r ∈ rs, r.links u.source u.target → r.kind = .uses

theorem usesAreFallback_iff {rs : List Relation} :
    UsesAreFallback rs ↔ ∀ s t, Has rs s t .uses → ∀ k, Has rs s t k → k = .uses := by
  constructor
  · rintro h s t ⟨u, hu, hlu, hku⟩ k ⟨r, hr, hlr, rfl⟩
    obtain ⟨rfl, rfl⟩ := Relation.links_iff.1 hlu
    exact h u hu hku r hr hlr
  · intro h u hu hku r hr hlr
    exact h u.source u.target ⟨u, hu, Relation.links_iff.2 ⟨rfl, rfl⟩, hku⟩ r.kind ⟨r, hr, hlr, rfl⟩

/-- **Uses are a fallback exactly where no later file of the same class strengthens one.** Whenever a file has a plain
    field and a later file that declares the same class has a strong relation to the field's type, a strong relation
    between the two stands in the field's file or in one before it. -/
theorem usesAreFallback_relations_iff (index : NameIndex) (lookahead : Int) (corpus : Corpus) :
    UsesAreFallback (relations index lookahead corpus) ↔
      ∀ pre file post, fileRelations index lookahead corpus = pre ++ file :: post →
        ∀ w ∈ file.weak, ∀ g ∈ post, g.source = file.source → ∀ r ∈ g.strong, r.links w.source w.target →
          ∃ g' ∈ pre ++ [file], ∃ r' ∈ g'.strong, r'.links w.source w.target := by
  have hv : ∀ file ∈ fileRelations index lookahead corpus, file.Valid index := fun _ => fileRelations_valid
  rw [usesAreFallback_iff, relations_eq]
  constructor
  · intro h pre file post he w hw g hg _ r hr hlink
    by_contra hnone
    have hg' : g ∈ fileRelations index lookahead corpus := by simp [he, hg]
    have hkind := ((hv g hg').strong r hr).2.1
    have huse : FirstLinkIsUse (fileRelations index lookahead corpus) w.source w.target :=
      ⟨pre, file, post, he, ⟨w, hw, Relation.links_iff.2 ⟨rfl, rfl⟩⟩, fun g' hg' hl => hnone ⟨g', hg', hl⟩⟩
    exact hkind (h _ _ ((has_foldl_addFile_uses hv).2 huse) r.kind
      ((has_foldl_addFile_strong hv hkind).2 ⟨g, hg', r, hr, hlink, rfl⟩))
  · intro h s t huse k hk
    by_contra hne
    obtain ⟨pre, file, post, he, ⟨w, hw, hlw⟩, hnone⟩ := (has_foldl_addFile_uses hv).1 huse
    obtain ⟨g, hg, r, hr, hlr, -⟩ := (has_foldl_addFile_strong hv hne).1 hk
    obtain ⟨rfl, rfl⟩ := Relation.links_iff.1 hlw
    have hfile : file ∈ fileRelations index lookahead corpus := by simp [he]
    have hsource : g.source = file.source := by
      rw [← ((hv g hg).strong r hr).2.2, ← ((hv file hfile).weak w hw).2.2]
      exact (Relation.links_iff.1 hlr).1
    -- up to the field's file no strong relation joins the two, so `g` stands behind it
    have hpost : g ∈ post := by
      rw [he, List.append_cons, List.mem_append] at hg
      exact hg.resolve_left fun hg => hnone g hg ⟨r, hr, hlr⟩
    obtain ⟨g', hg', r', hr', hl'⟩ := h pre file post he w hw g hpost hsource r hr hlr
    exact hnone g' hg' ⟨r', hr', hl'⟩

/-- Two files that declare `A`: one with a plain field of type `B`, the other with `B` as its superclass. -/
def sameNameCorpus : Corpus where
  files := [⟨"a/A.java", "class A \x7b private B b; \x7d"⟩, ⟨"b/A.java", "class A extends B \x7b\x7d"⟩,
    ⟨"B.java", "class B \x7b\x7d"⟩]
  descriptors := []

/-- A use of `B` by `A` stands beside the relation of a later file of the same name. -/
theorem not_usesAreFallback_sameName :
    ¬ UsesAreFallback (relations (.ofFacts (extractedFacts {} sameNameCorpus)) 4 sameNameCorpus) := by
  have hrelations : relations (.ofFacts (extractedFacts {} sameNameCorpus)) 4 sameNameCorpus =
      [⟨"A", "B", .uses, some "b"⟩, ⟨"A", "B", .extends, none⟩] := by
    decide +kernel
  rw [hrelations]
  intro h
  have hkind := h ⟨"A", "B", .uses, some "b"⟩ (by simp) rfl ⟨"A", "B", .extends, none⟩ (by simp) rfl
  cases hkind

end SpringAtlas
