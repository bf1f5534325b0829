import Mathlib.Data.List.Nodup
import SpringAtlas.Proofs.Outcome
import SpringAtlas.Proofs.Text.Blank
import SpringAtlas.Settings.Store

/-!
# `Proofs.Settings.Entries` — entries whose keys are distinct

Flattening and storing settings both decide what to do with a key that is there already. Where all keys are distinct there
is nothing to decide: the entries of a document are those of its parts one after another, and a store takes them as they
are, if their keys are in relaxed form already.

## Contents
* `foldl_eq_append` — adding entries with new keys
* `flatten_str`, `flattenEntries_map`, `flattenItems_map` — the entries of scalars, mappings and lists
* `relaxedKey_eq_self`, `Store.entries_update` — keys in relaxed form
-/

namespace SpringAtlas.Settings

/-! ## New keys -/

/-- A key without an entry has no value. -/
theorem lookup_eq_none {es : Entries} {key : String} (h : key ∉ es.map Prod.fst) : es.lookup key = none := by
  rw [List.lookup_eq_none_iff]
  intro e he
  have hne : key ≠ e.1 := fun heq => h (heq ▸ List.mem_map_of_mem he)
  simpa using hne

/-- Entries with distinct keys are added one behind another, by whatever way of adding a new key. -/
theorem foldl_eq_append {add : Entries → String × String → Entries} {es more : Entries}
    (hadd : ∀ es, ∀ e ∈ more, e.1 ∉ es.map Prod.fst → add es e = es ++ [e])
    (h : ((es ++ more).map Prod.fst).Nodup) : more.foldl add es = es ++ more := by
  induction more generalizing es with
  | nil => simp
  | cons e more ih =>
    have hnew : e.1 ∉ es.map Prod.fst := by
      rw [List.map_append, List.map_cons, List.nodup_append'] at h
      exact fun hmem => h.2.2 hmem (by simp)
    rw [List.foldl_cons, hadd es e (by simp) hnew]
    -- the entry goes over to those that are there, and all keys stay distinct
    have hsplit : es ++ e :: more = (es ++ [e]) ++ more := by simp
    rw [hsplit] at h ⊢
    exact ih (fun es' e' he' => hadd es' e' (List.mem_cons_of_mem _ he')) h

/-- Entries with new keys are added at the end. -/
theorem Entries.update_eq_append {es more : Entries} (h : ((es ++ more).map Prod.fst).Nodup) :
    es.update more = es ++ more := by
  refine foldl_eq_append (fun es e _ hnew => ?_) h
  rw [Entries.set, lookup_eq_none hnew]
  rfl

/-! ## Documents -/

/-- A text can always be written. -/
theorem text?_str (s : String) : (Yaml.Value.str s).text? = .ok s := by
  simp [Yaml.Value.text?, Yaml.Value.fitsText, Yaml.Value.text]

/-- A text is one entry, under its path. -/
theorem flatten_str (s : String) {path : String} (h : path ≠ "") : flatten (.str s) path = .ok [(path, s)] := by
  have hpath : path.isEmpty = false := by
    rw [← Bool.not_eq_true, String.isEmpty_iff]
    exact h
  simp [flatten, hpath, scalarText, text?_str, Except.map]

/-- The entries of a mapping are those of its values, if no key of them occurs twice. -/
theorem flattenEntries_map {α : Type} {items : List α} {key : α → String} {value : α → Yaml.Value} {found : α → Entries}
    {path : String} (h : ∀ a ∈ items, flatten (value a) (childPath path (key a)) = .ok (found a))
    (hnodup : ((items.flatMap found).map Prod.fst).Nodup) :
    flattenEntries (items.map fun a => (.str (key a), value a)) path = .ok (items.flatMap found) := by
  induction items with
  | nil => rfl
  | cons a items ih =>
    rw [List.flatMap_cons] at hnodup ⊢
    have hrest := ih (fun a' ha' => h a' (List.mem_cons_of_mem _ ha')) (by
      rw [List.map_append] at hnodup
      exact hnodup.of_append_right)
    rw [List.map_cons, flattenEntries, text?_str]
    refine bind_eq_ok.2 ⟨key a, rfl, bind_eq_ok.2 ⟨found a, h a (by simp), bind_eq_ok.2 ⟨_, hrest, ?_⟩⟩⟩
    rw [Entries.update_eq_append hnodup]
    rfl

/-- A mapping given by its keys, their values and the entries of these. -/
theorem flatten_parts (parts : List (String × Yaml.Value × Entries)) (path : String) {es : Entries}
    (hes : (parts.flatMap fun p => p.2.2) = es) (h : ∀ p ∈ parts, flatten p.2.1 (childPath path p.1) = .ok p.2.2)
    (hnodup : (es.map Prod.fst).Nodup) : flatten (.map (parts.map fun p => (.str p.1, p.2.1))) path = .ok es := by
  subst hes
  rw [flatten]
  exact flattenEntries_map h hnodup

/-- A mapping with one key has the entries of its value, under the longer path. -/
theorem flatten_singleton {key path : String} {value : Yaml.Value} {es : Entries}
    (h : flatten value (childPath path key) = .ok es) : flatten (.map [(.str key, value)]) path = .ok es := by
  rw [flatten, flattenEntries, text?_str]
  exact bind_eq_ok.2 ⟨key, rfl, bind_eq_ok.2 ⟨es, h, rfl⟩⟩

/-- The entries of a list are those of its items, each below its index. -/
theorem flattenItems_map {α : Type} {items : List α} {value : α → Yaml.Value} {path : String} {found : α → Nat → Entries}
    {k : Nat} (h : ∀ a ∈ items, ∀ i, flatten (value a) (itemPath path i) = .ok (found a i))
    (hnodup : (((items.zipIdx k).flatMap fun x => found x.1 x.2).map Prod.fst).Nodup) :
    flattenItems (items.map value) path k = .ok ((items.zipIdx k).flatMap fun x => found x.1 x.2) := by
  induction items generalizing k with
  | nil => rfl
  | cons a items ih =>
    rw [List.zipIdx_cons, List.flatMap_cons] at hnodup ⊢
    have hrest := ih (k := k + 1) (fun a' ha' => h a' (List.mem_cons_of_mem _ ha')) (by
      rw [List.map_append] at hnodup
      exact hnodup.of_append_right)
    rw [List.map_cons, flattenItems]
    refine bind_eq_ok.2 ⟨found a k, h a (by simp) k, bind_eq_ok.2 ⟨_, hrest, ?_⟩⟩
    rw [Entries.update_eq_append hnodup]
    rfl

/-! ## Relaxed keys -/

/-- A character that stays as it is in the relaxed form of a key. -/
def isRelaxed (c : Char) : Bool :=
  !Text.isBlank c && c.toNat != 0x3A3 && Text.lowerChar c == [c] && c != '-' && c != '_'

theorem lowerFrom_eq_self {seen cs : List Char} (h : ∀ c ∈ cs, c.toNat ≠ 0x3A3 ∧ Text.lowerChar c = [c]) :
    Text.lowerFrom seen cs = cs := by
  induction cs generalizing seen with
  | nil => rfl
  | cons c cs ih =>
    obtain ⟨hsigma, hlower⟩ := h c (by simp)
    rw [Text.lowerFrom, if_neg (by simpa using hsigma), hlower, ih fun d hd => h d (List.mem_cons_of_mem _ hd)]
    rfl

/-- A key in relaxed form is its own relaxed form. -/
theorem relaxedKey_eq_self {key : String} (h : key.toList.all isRelaxed) : relaxedKey key = key := by
  simp only [List.all_eq_true, isRelaxed, Bool.and_eq_true, Bool.not_eq_true', bne_iff_ne, beq_iff_eq] at h
  rw [relaxedKey, Text.trim, Text.trimWhere_of_forall fun c hc => (h c hc).1.1.1.1, Text.lower,
    lowerFrom_eq_self fun c hc => ⟨(h c hc).1.1.1.2, (h c hc).1.1.2⟩, List.filter_eq_self.2, String.ofList_toList]
  intro c hc
  simp [(h c hc).1.2, (h c hc).2]

/-- An empty store takes entries with distinct relaxed keys as they are. -/
theorem Store.entries_update {es : Entries} (hrelaxed : ∀ e ∈ es, relaxedKey e.1 = e.1)
    (hnodup : (es.map Prod.fst).Nodup) : (Store.update {} es).entries = es := by
  refine foldl_eq_append (fun found e he hnew => ?_) hnodup
  rw [hrelaxed e he, Entries.setDefault, lookup_eq_none hnew]
  rfl

end SpringAtlas.Settings
