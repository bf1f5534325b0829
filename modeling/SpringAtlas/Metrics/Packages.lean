import SpringAtlas.Text.Search

/-!
# `Metrics.Packages` — the tree of packages

The segments of package names form a tree, which is drawn with one segment a line, children below their parent
and two spaces further in, in the order of their names.
-/

namespace SpringAtlas

/-- The segments of a package name. -/
def packageSegments (name : String) : List String :=
  (Text.splitWhere (· == '.') name.toList).map String.ofList

/-- Distinct names in order. -/
def sortedNames (names : List String) : List String :=
  (Text.distinct names).mergeSort fun a b => decide (a ≤ b)

/-- The rest of each path that goes through a segment. -/
def below (segment : String) (paths : List (List String)) : List (List String) :=
  paths.filterMap fun
    | [] => none
    | s :: rest => if s == segment then some rest else none

/-- The number of segments in some paths. -/
def segmentCount (paths : List (List String)) : Nat :=
  paths.flatten.length

theorem segmentCount_below_le (segment : String) (paths : List (List String)) :
    segmentCount (below segment paths) ≤ segmentCount paths := by
  induction paths with
  | nil => simp [below, segmentCount]
  | cons p ps ih =>
    cases p with
    | nil => simpa [below, segmentCount] using ih
    | cons s rest =>
      by_cases h : s = segment
      · simp only [below, segmentCount, List.filterMap_cons, beq_iff_eq, h, if_true, List.flatten_cons,
          List.length_append, List.length_cons] at ih ⊢
        omega
      · simp only [below, segmentCount, List.filterMap_cons, beq_iff_eq, h, if_false, List.flatten_cons,
          List.length_append, List.length_cons] at ih ⊢
        omega

/-- Going below a segment that occurs leaves fewer segments, which bounds the depth of the tree. -/
theorem segmentCount_below_lt {segment : String} {paths : List (List String)}
    (h : segment ∈ paths.filterMap List.head?) :
    segmentCount (below segment paths) < segmentCount paths := by
  induction paths with
  | nil => simp at h
  | cons p ps ih =>
    have hle := segmentCount_below_le segment ps
    cases p with
    | nil =>
      simp only [List.filterMap_cons, List.head?_nil] at h
      simpa [below, segmentCount] using ih h
    | cons s rest =>
      by_cases hs : s = segment
      · simp only [below, segmentCount, List.filterMap_cons, beq_iff_eq, hs, if_true, List.flatten_cons,
          List.length_append, List.length_cons] at hle ⊢
        omega
      · simp only [List.filterMap_cons, List.head?_cons, List.mem_cons] at h
        have hlt := ih (h.resolve_left fun e => hs e.symm)
        simp only [below, segmentCount, List.filterMap_cons, beq_iff_eq, hs, if_false, List.flatten_cons,
          List.length_append, List.length_cons] at hlt ⊢
        omega

/-- Collecting values without repetition collects only values of the list. -/
theorem mem_foldl_distinct {α : Type} [BEq α] {x : α} (xs seen : List α)
    (h : x ∈ xs.foldl (fun seen x => if seen.contains x then seen else seen ++ [x]) seen) :
    x ∈ seen ∨ x ∈ xs := by
  induction xs generalizing seen with
  | nil => exact Or.inl h
  | cons y ys ih =>
    rw [List.foldl_cons] at h
    rcases ih _ h with h | h
    · split at h
      · exact Or.inl h
      · rcases List.mem_append.1 h with h | h
        · exact Or.inl h
        · exact Or.inr (List.mem_cons.2 (Or.inl (List.mem_singleton.1 h)))
    · exact Or.inr (List.mem_cons_of_mem _ h)

/-- Sorting names brings in no others. -/
theorem mem_of_mem_sortedNames {x : String} {names : List String} (h : x ∈ sortedNames names) :
    x ∈ names := by
  unfold sortedNames at h
  rw [List.mem_mergeSort] at h
  rcases mem_foldl_distinct names [] h with h | h
  · simp at h
  · exact h

/-- A segment on a line of its own. -/
def treeLine (depth : Nat) (segment : String) : String :=
  String.ofList (List.replicate (2 * depth) ' ') ++ segment ++ "\n"

/-- The tree of some paths, whose roots stand at the given depth. -/
def drawTree (depth : Nat) (paths : List (List String)) : String :=
  String.join ((sortedNames (paths.filterMap List.head?)).attach.map fun ⟨segment, _⟩ =>
    treeLine depth segment ++ drawTree (depth + 1) (below segment paths))
termination_by segmentCount paths
decreasing_by exact segmentCount_below_lt (mem_of_mem_sortedNames (by assumption))

/-- A package whose first segment is empty would be its own parent. -/
def isRootless (name : String) : Bool :=
  (packageSegments name).head? == some ""

/-- The tree of some packages; there is none if one of them has no root. -/
def packageTree? (packages : List String) : Option String :=
  if packages.any isRootless then none else some (drawTree 0 (packages.map packageSegments))

end SpringAtlas
