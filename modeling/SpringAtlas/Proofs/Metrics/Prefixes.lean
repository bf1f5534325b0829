import Mathlib.Data.List.Sort
import Mathlib.Data.String.Basic
import SpringAtlas.Proofs.Metrics.Completion

/-!
# `Proofs.Metrics.Prefixes` — the tree of packages as the list of its prefixes

Each line of the tree stands for a path from the root: a prefix of the segments of some package. The tree is drawn by
recursion, the children of a segment below it and in the order of their names. That this puts the prefixes into
lexicographic order is shown along the recursion: below one segment all paths start with it, and what stands below a
smaller segment comes before everything that starts with a greater one (`pairwise_orderedPrefixes`).

A list in strict order is known by its members. So the drawing depends on nothing but the set of the packages, neither on
their order nor on repetitions, and the same holds of the drawing that looks its children up in a table of joined keys.

## Contents
* `pairwise_sortedNames` — distinct names in strict order
* `orderedPrefixes`, `mem_orderedPrefixes`, `pairwise_orderedPrefixes` — prefixes in the order of the lines
* `drawTree_eq_join` — one line for each prefix
* `ListsPrefixes`, `packageTree?_lists_prefixes`
-/

namespace SpringAtlas

/-! ## Names in order -/

theorem nodup_foldl_distinct {α : Type} [BEq α] [LawfulBEq α] (xs : List α) {seen : List α} (h : seen.Nodup) :
    (xs.foldl (fun seen x => if seen.contains x then seen else seen ++ [x]) seen).Nodup := by
  induction xs generalizing seen with
  | nil => exact h
  | cons x xs ih =>
    rw [List.foldl_cons]
    apply ih
    split
    · exact h
    · next hx =>
      refine List.nodup_append.2 ⟨h, List.nodup_singleton x, fun a ha b hb => ?_⟩
      rintro rfl
      obtain rfl := List.mem_singleton.1 hb
      exact hx (List.contains_iff_mem.2 ha)

/-- Dropping repetitions leaves none. -/
theorem nodup_distinct {α : Type} [BEq α] [LawfulBEq α] (xs : List α) : (Text.distinct xs).Nodup :=
  nodup_foldl_distinct xs List.nodup_nil

/-- Names are sorted without repetition. -/
theorem pairwise_sortedNames (names : List String) : (sortedNames names).Pairwise (· < ·) := by
  have hsorted : (sortedNames names).Pairwise fun a b => decide (a ≤ b) = true := by
    apply List.pairwise_mergeSort
    · intro a b c hab hbc
      rw [decide_eq_true_eq] at hab hbc ⊢
      exact le_trans hab hbc
    · intro a b
      rw [Bool.or_eq_true, decide_eq_true_eq, decide_eq_true_eq]
      exact le_total a b
  have hnodup : (sortedNames names).Nodup := (List.mergeSort_perm _ _).nodup_iff.2 (nodup_distinct names)
  refine (hsorted.and hnodup).imp fun ⟨hle, hne⟩ => ?_
  exact lt_of_le_of_ne (of_decide_eq_true hle) hne

/-! ## Prefixes in the order of the lines -/

/-- The prefixes of some paths as the tree lists them: each segment, then what stands below it. -/
def orderedPrefixes (paths : List (List String)) : List (List String) :=
  (sortedNames (paths.filterMap List.head?)).attach.flatMap fun ⟨s, _⟩ =>
    [s] :: (orderedPrefixes (below s paths)).map (s :: ·)
termination_by segmentCount paths
decreasing_by exact segmentCount_below_lt (mem_of_mem_sortedNames (by assumption))

theorem orderedPrefixes_eq (paths : List (List String)) :
    orderedPrefixes paths = (sortedNames (paths.filterMap List.head?)).flatMap fun s =>
      [s] :: (orderedPrefixes (below s paths)).map (s :: ·) := by
  rw [orderedPrefixes]
  simp

theorem mem_below {s : String} {rest : List String} {paths : List (List String)} :
    rest ∈ below s paths ↔ s :: rest ∈ paths := by
  constructor
  · intro h
    obtain ⟨p, hp, hrest⟩ := List.mem_filterMap.1 h
    cases p with
    | nil => cases hrest
    | cons s' rest' =>
      obtain ⟨hs, hrest⟩ := Option.ite_none_right_eq_some.1 hrest
      obtain rfl := Option.some.inj hrest
      rwa [← beq_iff_eq.1 hs]
  · intro h
    exact List.mem_filterMap.2 ⟨s :: rest, h, if_pos (beq_self_eq_true s)⟩

/-- The tree lists exactly the prefixes of the paths, the empty one apart. -/
theorem mem_orderedPrefixes {q : List String} {paths : List (List String)} :
    q ∈ orderedPrefixes paths ↔ q ≠ [] ∧ ∃ p ∈ paths, q <+: p := by
  induction q generalizing paths with
  | nil =>
    rw [orderedPrefixes_eq]
    simp
  | cons s q ih =>
    have hhere : s :: q ∈ orderedPrefixes paths ↔
        s ∈ paths.filterMap List.head? ∧ (q = [] ∨ q ∈ orderedPrefixes (below s paths)) := by
      rw [orderedPrefixes_eq, List.mem_flatMap]
      constructor
      · rintro ⟨s', hs', hq⟩
        rcases List.mem_cons.1 hq with hq | hq
        · obtain ⟨rfl, rfl⟩ := List.cons.inj hq
          exact ⟨mem_sortedNames.1 hs', Or.inl rfl⟩
        · obtain ⟨q', hq', he⟩ := List.mem_map.1 hq
          obtain ⟨rfl, rfl⟩ := List.cons.inj he
          exact ⟨mem_sortedNames.1 hs', Or.inr hq'⟩
      · rintro ⟨hs, rfl | hq⟩
        · exact ⟨s, mem_sortedNames.2 hs, List.mem_cons_self⟩
        · exact ⟨s, mem_sortedNames.2 hs, List.mem_cons_of_mem _ (List.mem_map_of_mem hq)⟩
    have hhead : s ∈ paths.filterMap List.head? ↔ ∃ rest, s :: rest ∈ paths := by
      constructor
      · intro h
        obtain ⟨p, hp, hs⟩ := List.mem_filterMap.1 h
        obtain ⟨rest, rfl⟩ := List.head?_eq_some_iff.1 hs
        exact ⟨rest, hp⟩
      · rintro ⟨rest, h⟩
        exact List.mem_filterMap.2 ⟨_, h, rfl⟩
    rw [hhere, hhead, ih]
    constructor
    · rintro ⟨⟨rest, hrest⟩, rfl | ⟨-, p, hp, hq⟩⟩
      · exact ⟨List.cons_ne_nil s [], s :: rest, hrest, List.cons_prefix_cons.2 ⟨rfl, List.nil_prefix⟩⟩
      · exact ⟨List.cons_ne_nil s q, s :: p, mem_below.1 hp, List.cons_prefix_cons.2 ⟨rfl, hq⟩⟩
    · rintro ⟨-, p, hp, rest, rfl⟩
      refine ⟨⟨q ++ rest, hp⟩, ?_⟩
      by_cases hq : q = []
      · exact Or.inl hq
      · exact Or.inr ⟨hq, q ++ rest, mem_below.2 hp, List.prefix_append q rest⟩

theorem ne_nil_of_mem_orderedPrefixes {q : List String} {paths : List (List String)} (h : q ∈ orderedPrefixes paths) :
    q ≠ [] :=
  (mem_orderedPrefixes.1 h).1

/-- **The lines of the tree are in lexicographic order**, a path in front of those that go on from it. -/
theorem pairwise_orderedPrefixes (paths : List (List String)) :
    (orderedPrefixes paths).Pairwise (List.Lex (· < ·)) := by
  induction paths using orderedPrefixes.induct with
  | case1 paths ih =>
    rw [orderedPrefixes_eq, List.pairwise_flatMap]
    constructor
    · intro s hs
      refine List.pairwise_cons.2 ⟨fun q hq => ?_, ?_⟩
      · obtain ⟨q', hq', rfl⟩ := List.mem_map.1 hq
        obtain ⟨s', q', rfl⟩ := List.exists_cons_of_ne_nil (ne_nil_of_mem_orderedPrefixes hq')
        exact .cons .nil
      · exact List.pairwise_map.2 ((ih s hs).imp fun hlt => .cons hlt)
    · -- different segments: the first one decides
      refine (pairwise_sortedNames _).imp fun {s s'} hlt q hq q' hq' => ?_
      have hfirst : ∀ {s : String} {q : List String},
          q ∈ [s] :: (orderedPrefixes (below s paths)).map (s :: ·) → ∃ rest, q = s :: rest := by
        intro s q hq
        rcases List.mem_cons.1 hq with rfl | hq
        · exact ⟨[], rfl⟩
        · obtain ⟨rest, -, rfl⟩ := List.mem_map.1 hq
          exact ⟨rest, rfl⟩
      obtain ⟨rest, rfl⟩ := hfirst hq
      obtain ⟨rest', rfl⟩ := hfirst hq'
      exact .rel hlt

/-! ## One line for each prefix -/

/-- The line of a prefix: two spaces for each segment but the last, and the last segment. -/
def prefixLine (q : List String) : String :=
  treeLine (q.length - 1) (q.getLast?.getD "")

/-- **The tree has one line for each prefix**, further in by the depth at which it is drawn. -/
theorem drawTree_eq_join (depth : Nat) (paths : List (List String)) :
    drawTree depth paths = String.join ((orderedPrefixes paths).map fun q =>
      treeLine (depth + (q.length - 1)) (q.getLast?.getD "")) := by
  induction paths using orderedPrefixes.induct generalizing depth with
  | case1 paths ih =>
    have hchild : ∀ s ∈ sortedNames (paths.filterMap List.head?),
        treeLine depth s ++ drawTree (depth + 1) (below s paths) =
          String.join (([s] :: (orderedPrefixes (below s paths)).map (s :: ·)).map fun q =>
            treeLine (depth + (q.length - 1)) (q.getLast?.getD "")) := by
      intro s hs
      have hbelow : ((orderedPrefixes (below s paths)).map (s :: ·)).map
          (fun q => treeLine (depth + (q.length - 1)) (q.getLast?.getD "")) =
          (orderedPrefixes (below s paths)).map fun q =>
            treeLine (depth + 1 + (q.length - 1)) (q.getLast?.getD "") := by
        rw [List.map_map]
        refine List.map_congr_left fun q hq => ?_
        obtain ⟨s', q', rfl⟩ := List.exists_cons_of_ne_nil (ne_nil_of_mem_orderedPrefixes hq)
        show treeLine (depth + (q'.length + 1)) _ = treeLine (depth + 1 + q'.length) _
        rw [Nat.add_comm q'.length, ← Nat.add_assoc, List.getLast?_cons_cons]
      rw [ih s hs, List.map_cons, hbelow, String.join_cons]
      rfl
    rw [drawTree, orderedPrefixes_eq, List.map_flatMap, Text.join_flatMap, ← List.map_congr_left hchild]
    simp

/-! ## The tree of packages -/

/-- The prefixes of some packages in lexicographic order: names of segments are compared by code points, and a prefix stands
    in front of those that go on from it. -/
structure ListsPrefixes (packages : List String) (ps : List (List String)) : Prop where
  increasing : ps.Pairwise (List.Lex (· < ·))
  mem_iff : ∀ q, q ∈ ps ↔ q ≠ [] ∧ ∃ p ∈ packages, q <+: packageSegments p

/-- **The order in which the tree is drawn lists the prefixes.** -/
theorem listsPrefixes_orderedPrefixes (packages : List String) :
    ListsPrefixes packages (orderedPrefixes (packages.map packageSegments)) where
  increasing := pairwise_orderedPrefixes _
  mem_iff q := by
    rw [mem_orderedPrefixes]
    simp

/-- **There is one such list.** -/
theorem ListsPrefixes.unique {packages : List String} {ps ps' : List (List String)} (h : ListsPrefixes packages ps)
    (h' : ListsPrefixes packages ps') : ps = ps' := by
  apply h.increasing.eq_of_mem_iff h'.increasing
  intro q
  rw [h.mem_iff, h'.mem_iff]

/-- Only the set of the packages counts. -/
theorem ListsPrefixes.of_mem_iff {packages listed : List String} {ps : List (List String)}
    (h : ListsPrefixes packages ps) (hlisted : ∀ p, p ∈ listed ↔ p ∈ packages) : ListsPrefixes listed ps where
  increasing := h.increasing
  mem_iff q := by
    rw [h.mem_iff]
    simp only [hlisted]

/-- Where no package is rootless, the tree has one line for each prefix. -/
theorem packageTree?_of_listsPrefixes {packages : List String} (hroots : ∀ p ∈ packages, isRootless p = false)
    {ps : List (List String)} (h : ListsPrefixes packages ps) :
    packageTree? packages = some (String.join (ps.map prefixLine)) := by
  have hany : ¬ packages.any isRootless := by simpa using hroots
  rw [packageTree?, if_neg hany, drawTree_eq_join, h.unique (listsPrefixes_orderedPrefixes packages)]
  simp only [Nat.zero_add]
  rfl

/-- **The tree of packages lists each prefix once**, in lexicographic order, and does not depend on how the packages are
    listed. Looking the children up in a table of joined keys draws the same lines. -/
theorem packageTree?_lists_prefixes {packages : List String}
    (hroots : ∀ p ∈ packages, p ≠ "" ∧ p.toList.head? ≠ some '.') :
    ∃ ps, (∀ ps', ListsPrefixes packages ps' ↔ ps' = ps) ∧
      ∀ listed : List String, (∀ p, p ∈ listed ↔ p ∈ packages) →
        packageTree? listed = some (String.join (ps.map prefixLine)) ∧
        ∃ fuel, drawTable (treeTable listed) fuel 0 "" = some (String.join (ps.map prefixLine)) := by
  have hlists := listsPrefixes_orderedPrefixes packages
  refine ⟨_, fun ps' => ⟨fun h => h.unique hlists, ?_⟩, fun listed hlisted => ?_⟩
  · rintro rfl
    exact hlists
  · have hrooted : ∀ p ∈ listed, isRootless p = false := by
      intro p hp
      obtain ⟨hne, hhead⟩ := hroots p ((hlisted p).1 hp)
      rw [← Bool.not_eq_true, isRootless_iff hne]
      exact hhead
    have htree := packageTree?_of_listsPrefixes hrooted (hlists.of_mem_iff hlisted)
    exact ⟨htree, packageTree?_eq_some_iff.1 htree⟩

/-- A package and one below it, two that share their first segment, and a name with an empty segment. -/
def nestedPackages : List String :=
  ["com.b", "com", "org..x", "com.a.c"]

/-- Seven prefixes, in whatever order the packages come. -/
theorem packageTree?_lists_prefixes_nested :
    (∀ p ∈ nestedPackages, p ≠ "" ∧ p.toList.head? ≠ some '.') ∧
    ∃ ps, (∀ ps', ListsPrefixes nestedPackages ps' ↔ ps' = ps) ∧
      ∀ listed : List String, (∀ p, p ∈ listed ↔ p ∈ nestedPackages) →
        packageTree? listed = some (String.join (ps.map prefixLine)) ∧
        ∃ fuel, drawTable (treeTable listed) fuel 0 "" = some (String.join (ps.map prefixLine)) := by
  have hroots : ∀ p ∈ nestedPackages, p ≠ "" ∧ p.toList.head? ≠ some '.' := by decide
  exact ⟨hroots, packageTree?_lists_prefixes hroots⟩

end SpringAtlas
