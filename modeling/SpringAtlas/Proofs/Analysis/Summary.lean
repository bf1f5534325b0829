import Mathlib.Data.List.Nodup
import SpringAtlas.Analysis.Summary
import SpringAtlas.Proofs.Sorting
import SpringAtlas.Total

/-!
# `Proofs.Analysis.Summary` — summaries aggregate what a run has found

A tally grows by one occurrence at a time. `Counted` says what it holds behind some values: one entry for each of them, with
the number of its occurrences. One more occurrence keeps that (`Counted.add`), and so a tally holds it behind any list of
values (`counted_ofList`). The kinds that a summary counts have different labels, so the entry of a label counts the
elements of one kind.

The most severe findings are the first ones of a rearrangement of all findings. There is only one that has the most severe
ones first and leaves those of one severity in order (`ranks_iff`), so what is left out is known as well.

## Contents
* `Tally.Counted`, `Tally.counted_ofList` — what a tally holds
* `Tally.CountsBy`, `countsBy_ofList` — elements counted by their kind
* `Ranks`, `ranks_iff`, `topFindings_eq_take` — the order in which findings are shown
* `Summary.Aggregates`, `summarize_aggregates`
-/

namespace SpringAtlas

/-! ## Tallies -/

namespace Tally

/-- The tally has one entry for each value, with the number of its occurrences. -/
structure Counted (t : Tally) (values : List String) : Prop where
  nodup : (t.map Prod.fst).Nodup
  mem_iff : ∀ v n, (v, n) ∈ t ↔ 0 < n ∧ n = values.count v

/-- Counting a value once more adds its key behind the others, if it is new. -/
theorem map_fst_add (t : Tally) (value : String) :
    (t.add value).map Prod.fst = if value ∈ t.map Prod.fst then t.map Prod.fst else t.map Prod.fst ++ [value] := by
  induction t with
  | nil => rfl
  | cons e t ih =>
    obtain ⟨v, n⟩ := e
    by_cases hv : v = value
    · simp [add, hv]
    · have hne : ¬ value = v := fun he => hv he.symm
      rw [add, if_neg (by simpa using hv), List.map_cons, ih, List.map_cons]
      simp only [List.mem_cons, hne, false_or]
      split <;> rfl

/-- One more occurrence changes the entry of its value and no other. -/
theorem mem_add {t : Tally} (hnodup : (t.map Prod.fst).Nodup) {value v : String} {n : Nat} :
    (v, n) ∈ t.add value ↔
      if v = value then (n = 1 ∧ value ∉ t.map Prod.fst) ∨ ∃ m, (value, m) ∈ t ∧ n = m + 1 else (v, n) ∈ t := by
  induction t with
  | nil => by_cases hv : v = value <;> simp [add, hv]
  | cons e t ih =>
    obtain ⟨w, m⟩ := e
    rw [List.map_cons, List.nodup_cons] at hnodup
    obtain ⟨hw, hnodup⟩ := hnodup
    have hw' : ∀ k, (w, k) ∉ t := fun k hk => hw (List.mem_map.2 ⟨(w, k), hk, rfl⟩)
    by_cases hwv : w = value
    · subst hwv
      by_cases hv : v = w
      · subst hv
        simp [add, hw']
      · simp [add, hv]
    · have hne : ¬ value = w := fun he => hwv he.symm
      rw [add, if_neg (by simpa using hwv), List.mem_cons, ih hnodup]
      by_cases hv : v = value
      · subst hv
        simp [hne]
      · simp [hv]

/-- Counting a value once more adds one to the sum. -/
theorem total_add (t : Tally) (value : String) : total ((t.add value).map Prod.snd) = total (t.map Prod.snd) + 1 := by
  induction t with
  | nil => rfl
  | cons e t ih =>
    obtain ⟨v, n⟩ := e
    rw [add]
    split
    · simp only [List.map_cons, total_cons]
      omega
    · simp only [List.map_cons, total_cons, ih]
      omega

/-- The keys of a tally are the values that it counts. -/
theorem Counted.mem_keys_iff {t : Tally} {values : List String} (h : t.Counted values) (v : String) :
    v ∈ t.map Prod.fst ↔ v ∈ values := by
  rw [List.mem_map, ← @List.count_pos_iff _ _ _ v values]
  constructor
  · rintro ⟨⟨w, n⟩, hmem, rfl⟩
    obtain ⟨hpos, hn⟩ := (h.mem_iff w n).1 hmem
    rwa [← hn]
  · intro hpos
    exact ⟨(v, values.count v), (h.mem_iff v _).2 ⟨hpos, rfl⟩, rfl⟩

/-- **One more occurrence is counted.** -/
theorem Counted.add {t : Tally} {values : List String} (h : t.Counted values) (value : String) :
    (t.add value).Counted (values ++ [value]) where
  nodup := by
    rw [map_fst_add]
    split
    · exact h.nodup
    · next hnew => exact List.nodup_append.2 ⟨h.nodup, List.nodup_singleton value, fun a ha b hb he =>
        hnew (List.mem_singleton.1 hb ▸ he ▸ ha)⟩
  mem_iff v n := by
    rw [mem_add h.nodup, h.mem_keys_iff, List.count_append]
    by_cases hv : v = value
    · subst hv
      have hcount : [v].count v = 1 := by simp
      simp only [if_true, hcount, h.mem_iff]
      constructor
      · rintro (⟨rfl, hnew⟩ | ⟨m, ⟨hpos, hm⟩, rfl⟩)
        · rw [List.count_eq_zero.2 hnew]
          exact ⟨Nat.one_pos, rfl⟩
        · exact ⟨Nat.succ_pos m, by rw [hm]⟩
      · rintro ⟨-, rfl⟩
        by_cases hold : v ∈ values
        · exact Or.inr ⟨_, ⟨List.count_pos_iff.2 hold, rfl⟩, rfl⟩
        · exact Or.inl ⟨by rw [List.count_eq_zero.2 hold], hold⟩
    · have hcount : [value].count v = 0 := List.count_eq_zero.2 (by simpa using hv)
      rw [if_neg hv, h.mem_iff, hcount, Nat.add_zero]

/-- **A tally holds each value once**, with the number of its occurrences. -/
theorem counted_ofList (values : List String) : (ofList values).Counted values := by
  have hall : ∀ (t : Tally) (seen : List String), t.Counted seen →
      (values.foldl Tally.add t).Counted (seen ++ values) := by
    induction values with
    | nil =>
      intro t seen h
      rw [List.append_nil]
      exact h
    | cons value values ih =>
      intro t seen h
      rw [List.foldl_cons, ← List.singleton_append, ← List.append_assoc]
      exact ih _ _ (h.add value)
  refine hall [] [] ⟨List.nodup_nil, fun v n => ?_⟩
  rw [List.count_nil]
  exact iff_of_false List.not_mem_nil fun ⟨hpos, hn⟩ => Nat.ne_of_gt hpos hn

/-- The counts of a tally add up to the number of values. -/
theorem total_ofList (values : List String) : total ((ofList values).map Prod.snd) = values.length := by
  have hall : ∀ t : Tally, total ((values.foldl Tally.add t).map Prod.snd) = total (t.map Prod.snd) + values.length := by
    induction values with
    | nil => exact fun _ => rfl
    | cons value values ih =>
      intro t
      rw [List.foldl_cons, ih, total_add, List.length_cons]
      omega
  have hempty := hall []
  rwa [List.map_nil, total_nil, Nat.zero_add] at hempty

/-! ## Elements counted by their kind -/

/-- The tally counts some elements by their kind, each kind under its own label. -/
structure CountsBy {α κ : Type} [DecidableEq κ] (t : Tally) (xs : List α) (kind : α → κ) (label : κ → String) : Prop where
  /-- no label has two entries -/
  nodup : (t.map Prod.fst).Nodup
  /-- the entry of a kind has the number of the elements of that kind, and there is one if there are any -/
  mem_iff : ∀ k n, (label k, n) ∈ t ↔ 0 < n ∧ n = xs.countP fun x => kind x = k
  /-- all entries are those of kinds -/
  labelled : ∀ e ∈ t, ∃ x ∈ xs, e.1 = label (kind x)
  /-- every element is counted once -/
  total_eq : total (t.map Prod.snd) = xs.length

/-- A tally by labels counts by what is labelled, if different things have different labels. -/
theorem countsBy_ofList {α κ : Type} [DecidableEq κ] {label : κ → String} (hlabel : Function.Injective label)
    (xs : List α) (kind : α → κ) : (ofList (xs.map fun x => label (kind x))).CountsBy xs kind label where
  nodup := (counted_ofList _).nodup
  mem_iff k n := by
    have hcount : (xs.map fun x => label (kind x)).count (label k) = xs.countP fun x => kind x = k := by
      rw [List.count, List.countP_map]
      refine List.countP_congr fun x _ => ?_
      simp [hlabel.eq_iff]
    rw [(counted_ofList _).mem_iff, hcount]
  labelled e he := by
    have hkey : e.1 ∈ xs.map fun x => label (kind x) :=
      ((counted_ofList _).mem_keys_iff e.1).1 (List.mem_map_of_mem he)
    obtain ⟨x, hx, hlabel⟩ := List.mem_map.1 hkey
    exact ⟨x, hx, hlabel.symm⟩
  total_eq := by rw [total_ofList, List.length_map]

end Tally

/-! ## Kinds and their labels -/

/-- A function on a finite type is injective if its values on all members are distinct. -/
theorem injective_of_nodup_map {α β : Type} {f : α → β} (xs : List α) (hall : ∀ x, x ∈ xs) (h : (xs.map f).Nodup) :
    Function.Injective f :=
  fun a b hab => List.inj_on_of_nodup_map h (hall a) (hall b) hab

theorem Stereotype.label_injective : Function.Injective Stereotype.label :=
  injective_of_nodup_map all (fun s => by cases s <;> simp [all]) (by decide)

theorem HttpMethod.label_injective : Function.Injective HttpMethod.label :=
  injective_of_nodup_map all (fun m => by cases m <;> simp [all]) (by decide)

theorem RelationKind.label_injective : Function.Injective RelationKind.label :=
  injective_of_nodup_map
    [.extends, implements, injects, uses, oneToOne, oneToMany, manyToOne, manyToMany]
    (fun k => by cases k <;> simp) (by decide)

theorem Category.label_injective : Function.Injective Category.label :=
  injective_of_nodup_map
    [hardcodedSecret, sqlInjection, commandInjection, weakCrypto, missingAuth, corsMisconfiguration, debugEnabled,
      sensitiveDataExposure]
    (fun c => by cases c <;> simp) (by decide)

theorem Severity.mem_all (s : Severity) : s ∈ all := by
  cases s <;> simp [all]

theorem Severity.label_injective : Function.Injective Severity.label :=
  injective_of_nodup_map all mem_all (by decide)

theorem Severity.rank_injective : Function.Injective Severity.rank :=
  injective_of_nodup_map all mem_all (by decide)

/-! ## The most severe findings -/

/-- A rearrangement of some findings with the most severe ones first, and those of one severity in the order in which they
    were found. -/
structure Ranks (findings ranked : List Finding) : Prop where
  perm : ranked.Perm findings
  sorted : ranked.Pairwise fun a b => a.severity.rank ≤ b.severity.rank
  stable : ∀ s, (ranked.filter fun f => f.severity = s) = findings.filter fun f => f.severity = s

/-- The findings with the most severe ones first. -/
def rankedFindings (findings : List Finding) : List Finding :=
  findings.mergeSort fun a b => decide (a.severity.rank ≤ b.severity.rank)

/-- The findings sorted by severity are ranked. -/
theorem ranks_rankedFindings (findings : List Finding) : Ranks findings (rankedFindings findings) := by
  have htrans : ∀ a b c : Finding, decide (a.severity.rank ≤ b.severity.rank) = true →
      decide (b.severity.rank ≤ c.severity.rank) = true → decide (a.severity.rank ≤ c.severity.rank) = true := by
    intro a b c hab hbc
    rw [decide_eq_true_eq] at hab hbc ⊢
    exact Nat.le_trans hab hbc
  have htotal : ∀ a b : Finding,
      (decide (a.severity.rank ≤ b.severity.rank) || decide (b.severity.rank ≤ a.severity.rank)) = true := by
    intro a b
    rw [Bool.or_eq_true, decide_eq_true_eq, decide_eq_true_eq]
    exact Nat.le_total _ _
  refine ⟨List.mergeSort_perm _ _, ?_, fun s => ?_⟩
  · exact (List.pairwise_mergeSort htrans htotal findings).imp fun h => of_decide_eq_true h
  · refine filter_mergeSort htrans htotal (fun a b ha hb => ?_) findings
    rw [decide_eq_true_eq] at ha hb
    rw [ha, hb]
    exact decide_eq_true (Nat.le_refl _)

/-- **There is one such rearrangement.** -/
theorem ranks_iff {findings ranked : List Finding} : Ranks findings ranked ↔ ranked = rankedFindings findings := by
  have hown := ranks_rankedFindings findings
  constructor
  · intro h
    have hantisymm : ∀ s t : Severity, s.rank ≤ t.rank → t.rank ≤ s.rank → s = t :=
      fun s t hst hts => Severity.rank_injective (Nat.le_antisymm hst hts)
    refine eq_of_sorted Finding.severity hantisymm h.sorted hown.sorted fun s => ?_
    rw [h.stable, hown.stable]
  · rintro rfl
    exact hown

/-- The top findings are the first ones of the ranked findings, as many as the limit allows. -/
theorem topFindings_eq_take (findings : List Finding) (limit : Nat) :
    topFindings findings limit = (rankedFindings findings).take (min limit findings.length) := by
  have hlimit : Text.clampOffset findings.length limit = min limit findings.length := by
    rw [Text.clampOffset, if_neg (by omega), Int.toNat_natCast]
  rw [topFindings, hlimit]
  rfl

/-! ## Summaries -/

/-- Classes with the name of a module. -/
def placedFacts (facts : List ClassFact) : List ClassFact :=
  facts.filter fun f => f.moduleName.any fun m => !m.isEmpty

theorem moduleNames_eq (facts : List ClassFact) :
    ((facts.filterMap ClassFact.moduleName).filter fun m => !m.isEmpty) =
      (placedFacts facts).map fun f => f.moduleName.getD "" := by
  induction facts with
  | nil => rfl
  | cons f facts ih =>
    rw [placedFacts] at ih ⊢
    rw [List.filterMap_cons, List.filter_cons]
    cases hname : f.moduleName with
    | none => exact ih
    | some m =>
      by_cases hm : m.isEmpty
      · simpa [hm] using ih
      · simpa [hm, hname] using ih

/-- What a summary says about some results. -/
structure Summary.Aggregates (s : Summary) (facts : List ClassFact) (relations : List Relation) (findings : List Finding)
    (limit : Nat) : Prop where
  byStereotype : s.byStereotype.CountsBy facts ClassFact.stereotype Stereotype.label
  byHttpMethod : s.byHttpMethod.CountsBy (facts.flatMap ClassFact.endpoints) Endpoint.method HttpMethod.label
  byRelationKind : s.byRelationKind.CountsBy relations Relation.kind RelationKind.label
  bySeverity : s.bySeverity.CountsBy findings Finding.severity Severity.label
  byCategory : s.byCategory.CountsBy findings Finding.category Category.label
  byModule : s.byModule.CountsBy (placedFacts facts) (fun f => f.moduleName.getD "") id
  /-- the findings shown are the first ones of the one ranking, and none that is left out is more severe -/
  topFindings : ∃ ranked, (∀ r, Ranks findings r ↔ r = ranked) ∧
    s.topFindings = ranked.take (min limit findings.length) ∧
    ∀ kept ∈ s.topFindings, ∀ left ∈ ranked.drop (min limit findings.length), kept.severity.rank ≤ left.severity.rank

/-- **A summary aggregates the results faithfully**: it counts every element once under its kind, and shows the most severe
    findings in the order in which they were found. -/
theorem summarize_aggregates (facts : List ClassFact) (relations : List Relation) (findings : List Finding)
    (limit : Nat) : (summarize facts relations findings limit).Aggregates facts relations findings limit where
  byStereotype := Tally.countsBy_ofList Stereotype.label_injective facts _
  byHttpMethod := Tally.countsBy_ofList HttpMethod.label_injective _ _
  byRelationKind := Tally.countsBy_ofList RelationKind.label_injective relations _
  bySeverity := Tally.countsBy_ofList Severity.label_injective findings _
  byCategory := Tally.countsBy_ofList Category.label_injective findings _
  byModule := by
    show (Tally.ofList _).CountsBy _ _ _
    rw [moduleNames_eq]
    exact Tally.countsBy_ofList Function.injective_id (placedFacts facts) _
  topFindings := by
    refine ⟨rankedFindings findings, fun r => ranks_iff, topFindings_eq_take findings limit, fun kept hkept left hleft => ?_⟩
    have hsorted := (ranks_rankedFindings findings).sorted
    rw [← List.take_append_drop (min limit findings.length) (rankedFindings findings), List.pairwise_append] at hsorted
    refine hsorted.2.2 kept ?_ left hleft
    rw [← topFindings_eq_take]
    exact hkept

end SpringAtlas
