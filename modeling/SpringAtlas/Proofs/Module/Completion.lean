import SpringAtlas.Proofs.Module.Map

/-!
# `Proofs.Module.Completion` — when the services of a corpus can be mapped

A settings file that cannot be read is passed over, and so is a descriptor. The only thing that stops the map of a corpus is
the key of a gateway route whose index has too many digits to be read as a number.
-/

namespace SpringAtlas

namespace Settings

theorem indexValue_returns_iff {cs : List Char} :
    (∃ n, indexValue cs = .ok n) ↔ cs.length ≤ Yaml.Value.digitLimit := by
  unfold indexValue
  split
  · next hlong => simpa using hlong
  · next hshort => simpa using hshort

/-- The index of a predicate, if a field of a route is a part of one, is short enough to be read. -/
def PredicateFits (field : List Char) : Prop :=
  ∀ m, predicateKeyPattern.matchStart? field = some m → (m.group field 1).length ≤ Yaml.Value.digitLimit

/-- The indices in a key, if it is one of a route, are short enough to be read. -/
def KeyFits (key : List Char) : Prop :=
  ∀ m, routeKeyPattern.matchStart? key = some m →
    (m.group key 1).length ≤ Yaml.Value.digitLimit ∧ PredicateFits (m.group key 2)

/-- A field of a route is assigned unless its index is too long. -/
theorem assign_returns_iff {r : RouteDraft} {field : List Char} {value : String} :
    (∃ r', r.assign field value = .ok r') ↔ PredicateFits field := by
  unfold RouteDraft.assign PredicateFits
  split
  · next m hm =>
    constructor
    · rintro ⟨r', h⟩ m' hm'
      cases hm.symm.trans hm'
      obtain ⟨index, hindex, -⟩ := bind_eq_ok.1 h
      exact indexValue_returns_iff.1 ⟨index, hindex⟩
    · intro h
      obtain ⟨index, hindex⟩ := indexValue_returns_iff.2 (h m hm)
      exact ⟨_, bind_eq_ok.2 ⟨index, hindex, rfl⟩⟩
  · next hnone =>
    refine ⟨fun _ m hm => ?_, fun _ => ⟨_, rfl⟩⟩
    cases hnone.symm.trans hm

/-- An entry is assigned unless an index in its key is too long. -/
theorem assignRoute_returns_iff {routes : Indexed RouteDraft} {entry : String × String} :
    (∃ routes', assignRoute routes entry = .ok routes') ↔ KeyFits entry.1.toList := by
  dsimp only [assignRoute, KeyFits]
  split
  · next hnone =>
    refine ⟨fun _ m hm => ?_, fun _ => ⟨_, rfl⟩⟩
    cases hnone.symm.trans hm
  · next m hm =>
    constructor
    · rintro ⟨routes', h⟩ m' hm'
      cases hm.symm.trans hm'
      obtain ⟨index, hindex, h⟩ := bind_eq_ok.1 h
      obtain ⟨draft, hdraft, -⟩ := bind_eq_ok.1 h
      exact ⟨indexValue_returns_iff.1 ⟨index, hindex⟩, assign_returns_iff.1 ⟨draft, hdraft⟩⟩
    · intro h
      obtain ⟨index, hindex⟩ := indexValue_returns_iff.2 (h m hm).1
      obtain ⟨draft, hdraft⟩ := assign_returns_iff.2 (h m hm).2
      exact ⟨_, bind_eq_ok.2 ⟨index, hindex, bind_eq_ok.2 ⟨draft, hdraft, rfl⟩⟩⟩

/-- The settings of a store can be read if the indices in all its keys can. -/
theorem ofStore_returns_iff {s : Store} :
    (∃ settings, ofStore s = .ok settings) ↔ ∀ e ∈ s.entries, KeyFits e.1.toList := by
  have hroutes : (∃ drafts, s.entries.foldlM assignRoute [] = .ok drafts) ↔ ∀ e ∈ s.entries, KeyFits e.1.toList :=
    foldlM_returns_iff (P := fun e : String × String => KeyFits e.1.toList) (fun _ _ => assignRoute_returns_iff) []
  rw [← hroutes]
  constructor
  · rintro ⟨settings, h⟩
    obtain ⟨routes, h, -⟩ := bind_eq_ok.1 h
    obtain ⟨drafts, hdrafts, -⟩ := bind_eq_ok.1 h
    exact ⟨drafts, hdrafts⟩
  · rintro ⟨drafts, hdrafts⟩
    exact ⟨_, bind_eq_ok.2 ⟨_, bind_eq_ok.2 ⟨drafts, hdrafts, rfl⟩, rfl⟩⟩

end Settings

/-- A module can be described unless an index in a key of its settings is too long. -/
theorem describeIn_returns_iff [Yaml.Loader] (facts : List ClassFact) {c : Corpus} {modules : List BuildModule}
    {m : BuildModule} : (∃ r, describeIn c modules facts m = .ok r) ↔
      ∀ e ∈ (moduleStore c modules m).entries, Settings.KeyFits e.1.toList := by
  rw [← Settings.ofStore_returns_iff]
  constructor
  · rintro ⟨r, h⟩
    obtain ⟨settings, hsettings, -⟩ := bind_eq_ok.1 h
    exact ⟨settings, hsettings⟩
  · rintro ⟨settings, hsettings⟩
    exact ⟨_, bind_eq_ok.2 ⟨settings, hsettings, rfl⟩⟩

/-- **The services of a corpus can be mapped unless the index of a route is too long**, whatever its classes are. -/
theorem mapServices_returns_iff [Yaml.Loader] {maxDepth : Int} {c : Corpus} {facts : List ClassFact} :
    (∃ services, mapServices maxDepth c facts = .ok services) ↔
      ∀ m ∈ detectModules maxDepth c, ∀ e ∈ (moduleStore c (detectModules maxDepth c) m).entries,
        Settings.KeyFits e.1.toList := by
  simp only [← describeIn_returns_iff facts, ← mapM_returns_iff]
  constructor
  · rintro ⟨services, h⟩
    obtain ⟨described, hd, -⟩ := mapServices_eq_ok.1 h
    exact ⟨described, hd⟩
  · rintro ⟨described, hd⟩
    exact ⟨_, mapServices_eq_ok.2 ⟨described, hd, rfl⟩⟩

end SpringAtlas
