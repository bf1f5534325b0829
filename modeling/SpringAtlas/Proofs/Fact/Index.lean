import SpringAtlas.Fact.Index
import SpringAtlas.Proofs.Outcome

/-!
# `Proofs.Fact.Index` — what an index finds

A name that resolves is the name of the fact it resolves to, and the facts of an index come from the list it was
built from.
-/

namespace SpringAtlas.NameIndex

/-- What is found under a name has that name. -/
theorem find?_name {index : NameIndex} {name : String} {f : ClassFact} (h : index.find? name = some f) :
    f.name = name := by
  have hf := List.find?_some h
  simpa using hf

/-- The name of a fact that is found is a name of the index. -/
theorem name_mem_names {index : NameIndex} {name : String} {f : ClassFact} (h : index.find? name = some f) :
    f.name ∈ index.names :=
  List.mem_map_of_mem (List.mem_of_find?_eq_some h)

/-- A fact that a reference resolves to is the one under its own name. -/
theorem find?_of_resolve {index : NameIndex} {name : String} {f : ClassFact} (h : index.resolve name = some f) :
    index.find? f.name = some f := by
  unfold resolve at h
  split at h
  · simp at h
  · rw [find?_name h, h]

/-! ## Building an index -/

theorem mem_insert_entries {index : NameIndex} {f g : ClassFact} (h : g ∈ (index.insert f).entries) :
    g ∈ index.entries ∨ g = f := by
  unfold insert at h
  split at h
  · exact Or.inl h
  · simpa using h

/-- The index of some facts has no names but theirs. -/
theorem names_ofFacts_subset {facts : List ClassFact} {name : String} (h : name ∈ (ofFacts facts).names) :
    name ∈ facts.map ClassFact.name := by
  obtain ⟨g, hg, rfl⟩ := List.mem_map.1 h
  rcases mem_foldl entries insert mem_insert_entries hg with hg | ⟨f, hf, rfl⟩
  · simp at hg
  · exact List.mem_map_of_mem hf

end SpringAtlas.NameIndex
