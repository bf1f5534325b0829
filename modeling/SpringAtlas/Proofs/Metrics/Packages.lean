import Mathlib.Data.List.Basic
import SpringAtlas.Metrics.Packages
import SpringAtlas.Proofs.Outcome
import SpringAtlas.Proofs.Text.Lines

/-!
# `Proofs.Metrics.Packages` — when drawing the package tree ends

Package names are usually turned into a tree with a table: each segment of a name is filed under the *key* of the
segments before it, joined with dots, and drawing looks up the segments filed under a key and goes on below each of
them. Such a recursion ends if every key it meets is longer than the one before. The key of a package without a root is
not: an empty first segment, filed under the empty key, has the empty key again.

`drawTable` is that recursion, with a bound on its depth. It ends exactly if no package lacks a root, and then draws what
`drawTree` draws: `packageTree?_eq_some_iff`.

## Contents
* `childKey`, `treeTable`, `filedUnder`, `drawTable` — drawing from a table
* `keyOf`, `packageSegments_keyOf` — keys determine the path to a segment
* `filedUnder_keyOf` — what is filed under a key stands below its path
* `drawTable_eq_drawTree`, `drawTable_rootless` — drawing ends, or does not
* `packageTree?_eq_some_iff`
-/

namespace SpringAtlas

/-! ## Drawing from a table -/

/-- The key of a segment that is filed under `node`. -/
def childKey (node segment : String) : String :=
  if node.isEmpty then segment else node ++ "." ++ segment

/-- The entries of one package: each segment under the key of the segments before it. -/
def segmentEntries : String → List String → List (String × String)
  | _, [] => []
  | node, s :: rest => (node, s) :: segmentEntries (childKey node s) rest

def treeTable (packages : List String) : List (String × String) :=
  packages.flatMap fun p => segmentEntries "" (packageSegments p)

/-- The segments under a key, in order. -/
def filedUnder (table : List (String × String)) (node : String) : List String :=
  sortedNames ((table.filter fun e => e.1 == node).map Prod.snd)

/-- The tree below a key; `none` if the recursion goes deeper than `fuel`. -/
def drawTable (table : List (String × String)) : Nat → Nat → String → Option String
  | 0, _, _ => none
  | fuel + 1, depth, node =>
    ((filedUnder table node).mapM fun s =>
      (drawTable table fuel (depth + 1) (childKey node s)).map (treeLine depth s ++ ·)).map String.join

/-- Whether drawing some packages from their table ends. -/
def DrawingEnds (packages : List String) : Prop :=
  ∃ fuel text, drawTable (treeTable packages) fuel 0 "" = some text

/-! ## Keys -/

/-- The key of a path of segments. -/
def keyOf (path : List String) : String :=
  path.foldl childKey ""

/-- A path that a key determines: its segments hold no dot, and the first one is not empty. -/
def IsRooted (path : List String) : Prop :=
  path.head? ≠ some "" ∧ ∀ s ∈ path, '.' ∉ s.toList

/-- The key of a longer path is a child of the key of the path. -/
theorem keyOf_concat (path : List String) (s : String) : keyOf (path ++ [s]) = childKey (keyOf path) s := by
  simp [keyOf]

theorem childKey_ne_empty {node segment : String} (h : node ≠ "" ∨ segment ≠ "") : childKey node segment ≠ "" := by
  unfold childKey
  split
  · next he => exact h.resolve_left fun hne => hne (String.isEmpty_iff.1 he)
  · rw [← String.toList_inj.ne]
    simp

theorem foldl_childKey_toList {node : String} (h : node ≠ "") (path : List String) :
    (path.foldl childKey node).toList = Text.join ['.'] (node.toList :: path.map String.toList) := by
  induction path generalizing node with
  | nil => simp [Text.join_singleton]
  | cons s path ih =>
    have hkey : childKey node s = node ++ "." ++ s := by
      rw [childKey, if_neg (mt String.isEmpty_iff.1 h)]
    rw [List.foldl_cons, ih (childKey_ne_empty (Or.inl h)), hkey, List.map_cons, Text.join_cons_cons]
    cases path with
    | nil => simp [Text.join_singleton]
    | cons s' path => simp [Text.join_cons_cons]

/-- **A key is split into the path that it stands for.** -/
theorem packageSegments_keyOf {path : List String} (hne : path ≠ []) (h : IsRooted path) :
    packageSegments (keyOf path) = path := by
  cases path with
  | nil => exact absurd rfl hne
  | cons s path =>
    have hs : s ≠ "" := fun he => h.1 (by simp [he])
    have hkey : (keyOf (s :: path)).toList = Text.join ['.'] ((s :: path).map String.toList) := by
      have hroot : childKey "" s = s := by simp [childKey]
      rw [keyOf, List.foldl_cons, hroot, foldl_childKey_toList hs, List.map_cons]
    have hdots : ∀ w ∈ (s :: path).map String.toList, ∀ c ∈ w, (c == '.') = false := by
      intro w hw c hc
      obtain ⟨s', hs', rfl⟩ := List.mem_map.1 hw
      have hcne : c ≠ '.' := fun he => h.2 s' hs' (he ▸ hc)
      simpa using hcne
    rw [packageSegments, hkey, Text.splitWhere_join rfl (by simp) hdots, List.map_map]
    exact List.map_id'' (fun _ => String.ofList_toList) _

theorem keyOf_ne_empty {path : List String} (hne : path ≠ []) (h : IsRooted path) : keyOf path ≠ "" := by
  intro he
  have hsplit := packageSegments_keyOf hne h
  rw [he] at hsplit
  exact h.1 (by rw [← hsplit]; decide)

/-- Rooted paths have different keys. -/
theorem keyOf_inj {path path' : List String} (h : IsRooted path) (h' : IsRooted path') :
    keyOf path = keyOf path' ↔ path = path' := by
  refine ⟨fun he => ?_, congrArg keyOf⟩
  by_cases hne : path = []
  · subst hne
    by_contra hne'
    exact keyOf_ne_empty (Ne.symm hne') h' he.symm
  by_cases hne' : path' = []
  · subst hne'
    exact absurd he (keyOf_ne_empty hne h)
  rw [← packageSegments_keyOf hne h, he, packageSegments_keyOf hne' h']

/-! ## What is filed under a key -/

/-- The rests of the paths that begin with `path`. -/
def belowPath (path : List String) (paths : List (List String)) : List (List String) :=
  path.foldl (fun ps s => below s ps) paths

theorem belowPath_cons (s : String) (path : List String) (paths : List (List String)) :
    belowPath (s :: path) paths = belowPath path (below s paths) :=
  rfl

theorem belowPath_concat (path : List String) (s : String) (paths : List (List String)) :
    belowPath (path ++ [s]) paths = below s (belowPath path paths) := by
  simp [belowPath]

theorem below_append (s : String) (ps qs : List (List String)) : below s (ps ++ qs) = below s ps ++ below s qs := by
  simp [below, List.filterMap_append]

theorem belowPath_append (path : List String) (ps qs : List (List String)) :
    belowPath path (ps ++ qs) = belowPath path ps ++ belowPath path qs := by
  induction path generalizing ps qs with
  | nil => rfl
  | cons s path ih => simp only [belowPath_cons, below_append, ih]

theorem belowPath_nil (path : List String) : belowPath path [] = [] := by
  induction path with
  | nil => rfl
  | cons s path ih => exact ih

/-- Segments are filed under the keys of the paths that lead to them. -/
theorem segmentEntries_key {node : String} {segments : List String} {e : String × String}
    (h : e ∈ segmentEntries node segments) : ∃ walked, walked <+: segments ∧ e.1 = walked.foldl childKey node := by
  induction segments generalizing node with
  | nil => simp [segmentEntries] at h
  | cons s rest ih =>
    rcases List.mem_cons.1 h with rfl | h
    · exact ⟨[], List.nil_prefix, rfl⟩
    · obtain ⟨walked, hwalked, hkey⟩ := ih h
      exact ⟨s :: walked, List.cons_prefix_cons.2 ⟨rfl, hwalked⟩, hkey⟩

/-- The entries of a package under the key of `walked ++ path`, where `walked` leads to its first segment here: the
    segment behind `path`, if the package goes that way. The induction walks down the package. -/
theorem filter_segmentEntries (walked : List String) {path segments : List String} (hpath : IsRooted (walked ++ path))
    (hsegments : IsRooted (walked ++ segments)) :
    ((segmentEntries (keyOf walked) segments).filter fun e => e.1 == keyOf (walked ++ path)).map Prod.snd =
      (belowPath path [segments]).filterMap List.head? := by
  have hrooted {taken : List String} (h : taken <+: segments) : IsRooted (walked ++ taken) := by
    obtain ⟨rest, rfl⟩ := h
    refine ⟨fun he => hsegments.1 ?_, fun s hs => hsegments.2 s ?_⟩
    · rw [← List.append_assoc, List.head?_append, he]
      rfl
    · rw [← List.append_assoc]
      exact List.mem_append_left _ hs
  induction segments generalizing walked path with
  | nil =>
    cases path with
    | nil => rfl
    | cons s path =>
      have hstep : belowPath (s :: path) [[]] = [] := belowPath_nil path
      rw [hstep]
      rfl
  | cons s rest ih =>
    have hrest : IsRooted ((walked ++ [s]) ++ rest) := by simpa using hsegments
    have hfrom : keyOf (walked ++ [s]) = childKey (keyOf walked) s := keyOf_concat walked s
    -- further down the package, keys go on from the path to `s`
    have hdeeper {e : String × String} (he : e ∈ segmentEntries (childKey (keyOf walked) s) rest) :
        ∃ taken, s :: taken <+: s :: rest ∧ e.1 = keyOf (walked ++ s :: taken) := by
      obtain ⟨taken, htaken, hkey⟩ := segmentEntries_key he
      refine ⟨taken, List.cons_prefix_cons.2 ⟨rfl, htaken⟩, ?_⟩
      rw [hkey, ← hfrom]
      simp [keyOf]
    have hnone {path : List String} (hpath : IsRooted (walked ++ path)) (hhead : path.head? ≠ some s) :
        (segmentEntries (childKey (keyOf walked) s) rest).filter (fun e => e.1 == keyOf (walked ++ path)) = [] := by
      refine List.filter_eq_nil_iff.2 fun e he heq => ?_
      obtain ⟨taken, htaken, hkey⟩ := hdeeper he
      rw [beq_iff_eq, hkey, keyOf_inj (hrooted htaken) hpath, List.append_cancel_left_eq] at heq
      exact hhead (by simp [← heq])
    rw [segmentEntries, List.filter_cons]
    have hhere : keyOf walked = keyOf (walked ++ path) ↔ path = [] := by
      have hwalked : IsRooted (walked ++ []) := hrooted List.nil_prefix
      rw [List.append_nil] at hwalked
      rw [keyOf_inj hwalked hpath]
      simp
    cases path with
    | nil =>
      rw [if_pos (by simp), hnone hpath (by simp)]
      rfl
    | cons p path =>
      rw [if_neg (by simp [hhere])]
      by_cases hp : s = p
      · subst hp
        have hpath' : IsRooted ((walked ++ [s]) ++ path) := by simpa using hpath
        have hkey : keyOf (walked ++ s :: path) = keyOf ((walked ++ [s]) ++ path) := by simp
        have hstep : belowPath (s :: path) [s :: rest] = belowPath path [rest] := by simp [belowPath_cons, below]
        rw [← hfrom, hkey, ih _ hpath' hrest, hstep]
        intro taken htaken
        have := hrooted (List.cons_prefix_cons.2 ⟨rfl, htaken⟩ : s :: taken <+: s :: rest)
        simpa using this
      · have hstep : belowPath (p :: path) [s :: rest] = [] := by simp [belowPath_cons, below, hp, belowPath_nil]
        rw [hnone hpath (by simpa using Ne.symm hp), hstep]
        rfl

theorem packageSegments_no_dot {name s : String} (h : s ∈ packageSegments name) : '.' ∉ s.toList := by
  obtain ⟨w, hw, rfl⟩ := List.mem_map.1 h
  intro hdot
  rw [String.toList_ofList] at hdot
  simpa using Text.splitWhere_no_separator hw _ hdot

/-- **What is filed under the key of a path stands below that path.** -/
theorem filedUnder_keyOf {packages : List String} (hroots : ∀ p ∈ packages, isRootless p = false) {path : List String}
    (hpath : IsRooted path) :
    filedUnder (treeTable packages) (keyOf path) =
      sortedNames ((belowPath path (packages.map packageSegments)).filterMap List.head?) := by
  rw [filedUnder]
  congr 1
  induction packages with
  | nil => simp [treeTable, belowPath_nil]
  | cons p packages ih =>
    have hp : IsRooted ([] ++ packageSegments p) := by
      refine ⟨fun he => ?_, fun s hs => packageSegments_no_dot hs⟩
      have hroot := hroots p (by simp)
      rw [List.nil_append] at he
      simp [isRootless, he] at hroot
    have hone := filter_segmentEntries [] hpath hp
    have hmore := ih fun q hq => hroots q (List.mem_cons_of_mem _ hq)
    have hsplit : (p :: packages).map packageSegments = [packageSegments p] ++ packages.map packageSegments := rfl
    rw [hsplit, belowPath_append, List.filterMap_append, ← hmore, ← hone]
    simp [treeTable, keyOf]

/-! ## Drawing ends, or does not -/

theorem subset_foldl_distinct {α : Type} [BEq α] [LawfulBEq α] {x : α} (xs seen : List α) (h : x ∈ seen ∨ x ∈ xs) :
    x ∈ xs.foldl (fun seen x => if seen.contains x then seen else seen ++ [x]) seen := by
  induction xs generalizing seen with
  | nil => simpa using h
  | cons y ys ih =>
    rw [List.foldl_cons]
    apply ih
    rcases h with h | h
    · left
      split
      · exact h
      · exact List.mem_append_left _ h
    · rcases List.mem_cons.1 h with rfl | h
      · left
        split
        · next hc => exact List.contains_iff_mem.1 hc
        · exact List.mem_append_right _ (List.mem_singleton_self _)
      · exact Or.inr h

/-- Dropping repetitions drops no value and brings in none. -/
theorem mem_distinct {α : Type} [BEq α] [LawfulBEq α] {x : α} {xs : List α} : x ∈ Text.distinct xs ↔ x ∈ xs :=
  ⟨fun h => (mem_foldl_distinct xs [] h).resolve_left List.not_mem_nil, fun h => subset_foldl_distinct xs [] (Or.inr h)⟩

/-- Sorting drops no name and brings in none. -/
theorem mem_sortedNames {x : String} {names : List String} : x ∈ sortedNames names ↔ x ∈ names := by
  rw [sortedNames, List.mem_mergeSort, mem_distinct]

theorem belowPath_no_dot {path : List String} {paths : List (List String)} (h : ∀ p ∈ paths, ∀ s ∈ p, '.' ∉ s.toList) :
    ∀ p ∈ belowPath path paths, ∀ s ∈ p, '.' ∉ s.toList := by
  induction path generalizing paths with
  | nil => exact h
  | cons s path ih =>
    refine ih fun p hp => ?_
    obtain ⟨q, hq, hrest⟩ := List.mem_filterMap.1 hp
    split at hrest
    · cases hrest
    · split at hrest
      · cases hrest
        exact fun s' hs' => h _ hq s' (List.mem_cons_of_mem _ hs')
      · cases hrest

theorem mem_filterMap_head? {s : String} {paths : List (List String)} (h : s ∈ paths.filterMap List.head?) :
    ∃ p ∈ paths, s ∈ p := by
  obtain ⟨p, hp, hs⟩ := List.mem_filterMap.1 h
  exact ⟨p, hp, List.mem_of_mem_head? hs⟩

/-- Without rootless packages the recursion ends, and draws the tree. Each level uses up a segment of every path that
    is left. -/
theorem drawTable_eq_drawTree {packages : List String} (hroots : ∀ p ∈ packages, isRootless p = false) {fuel : Nat}
    {path : List String} (hpath : IsRooted path)
    (hfuel : segmentCount (belowPath path (packages.map packageSegments)) < fuel) (depth : Nat) :
    drawTable (treeTable packages) fuel depth (keyOf path) =
      some (drawTree depth (belowPath path (packages.map packageSegments))) := by
  induction fuel generalizing path depth with
  | zero => exact absurd hfuel (Nat.not_lt_zero _)
  | succ fuel ih =>
    have hchild : ∀ s ∈ sortedNames ((belowPath path (packages.map packageSegments)).filterMap List.head?),
        (drawTable (treeTable packages) fuel (depth + 1) (childKey (keyOf path) s)).map (treeLine depth s ++ ·) =
          some (treeLine depth s ++ drawTree (depth + 1) (below s (belowPath path (packages.map packageSegments)))) := by
      intro s hs
      have hhead := mem_of_mem_sortedNames hs
      have hdots : '.' ∉ s.toList := by
        obtain ⟨p, hp, hsp⟩ := mem_filterMap_head? hhead
        refine belowPath_no_dot (fun p hp s hs => ?_) p hp s hsp
        obtain ⟨name, -, rfl⟩ := List.mem_map.1 hp
        exact packageSegments_no_dot hs
      have hrooted : IsRooted (path ++ [s]) := by
        refine ⟨fun he => ?_, fun s' hs' => ?_⟩
        · cases path with
          | nil =>
            -- at the top an empty segment would come from a package without a root
            obtain ⟨p, hp, hsp⟩ := List.mem_filterMap.1 hhead
            obtain ⟨name, hname, rfl⟩ := List.mem_map.1 hp
            have hroot := hroots name hname
            simp only [List.nil_append, List.head?_cons, Option.some.injEq] at he
            simp [isRootless, hsp, he] at hroot
          | cons p path => exact hpath.1 (by simpa using he)
        · rcases List.mem_append.1 hs' with hs' | hs'
          · exact hpath.2 s' hs'
          · exact (List.mem_singleton.1 hs') ▸ hdots
      have hless := segmentCount_below_lt hhead
      rw [← belowPath_concat] at hless ⊢
      rw [← keyOf_concat, ih hrooted (by omega), Option.map_some]
    rw [drawTable, filedUnder_keyOf hroots hpath, mapM_eq_pure_map hchild, drawTree]
    simp

/-- A package without a root is drawn below itself, so that no bound on the depth is enough. -/
theorem drawTable_rootless {packages : List String} {p : String} (hp : p ∈ packages) (hroot : isRootless p)
    (fuel depth : Nat) : drawTable (treeTable packages) fuel depth "" = none := by
  have hfiled : "" ∈ filedUnder (treeTable packages) "" := by
    obtain ⟨rest, hrest⟩ : ∃ rest, packageSegments p = "" :: rest := by
      rw [isRootless, beq_iff_eq] at hroot
      exact List.head?_eq_some_iff.1 hroot
    refine mem_sortedNames.2 (List.mem_map.2 ⟨("", ""), List.mem_filter.2 ⟨?_, rfl⟩, rfl⟩)
    refine List.mem_flatMap.2 ⟨p, hp, ?_⟩
    rw [hrest, segmentEntries]
    exact List.mem_cons_self
  induction fuel generalizing depth with
  | zero => rfl
  | succ fuel ih =>
    refine Option.eq_none_iff_forall_ne_some.2 fun text htext => ?_
    obtain ⟨lines, hlines, -⟩ := Option.map_eq_some_iff.1 htext
    obtain ⟨line, hline⟩ := exists_of_mapM_eq_some hlines hfiled
    have hkey : childKey "" "" = "" := by decide
    rw [hkey, ih] at hline
    cases hline

/-- More fuel draws the same. -/
theorem drawTable_succ {table : List (String × String)} {fuel depth : Nat} {node text : String}
    (h : drawTable table fuel depth node = some text) : drawTable table (fuel + 1) depth node = some text := by
  induction fuel generalizing depth node text with
  | zero => cases h
  | succ fuel ih =>
    obtain ⟨lines, hlines, rfl⟩ := Option.map_eq_some_iff.1 h
    refine Option.map_eq_some_iff.2 ⟨lines, mapM_mono (fun s line hline => ?_) hlines, rfl⟩
    obtain ⟨below, hbelow, rfl⟩ := Option.map_eq_some_iff.1 hline
    rw [ih hbelow, Option.map_some]

/-- More room changes nothing about a recursion that ends. -/
theorem drawTable_le {table : List (String × String)} {fuel fuel' depth : Nat} {node text : String} (hle : fuel ≤ fuel')
    (h : drawTable table fuel depth node = some text) : drawTable table fuel' depth node = some text := by
  induction hle with
  | refl => exact h
  | step _ ih => exact drawTable_succ ih

theorem drawTable_unique {table : List (String × String)} {fuel fuel' depth : Nat} {node text text' : String}
    (h : drawTable table fuel depth node = some text) (h' : drawTable table fuel' depth node = some text') :
    text = text' := by
  rcases Nat.le_total fuel fuel' with hle | hle
  · exact Option.some.inj ((drawTable_le hle h).symm.trans h')
  · exact Option.some.inj (h.symm.trans (drawTable_le hle h'))

/-- **Drawing from a table ends with the tree of the packages**, or not at all. -/
theorem packageTree?_eq_some_iff {packages : List String} {text : String} :
    packageTree? packages = some text ↔ ∃ fuel, drawTable (treeTable packages) fuel 0 "" = some text := by
  by_cases hany : packages.any isRootless
  · obtain ⟨p, hp, hroot⟩ := List.any_eq_true.1 hany
    simp [packageTree?, hany, drawTable_rootless hp hroot]
  · have hroots : ∀ p ∈ packages, isRootless p = false := by simpa using hany
    have hrooted : IsRooted [] := ⟨by simp, by simp⟩
    have hends := drawTable_eq_drawTree hroots hrooted (Nat.lt_succ_self _) 0
    rw [packageTree?, if_neg hany, Option.some.injEq]
    constructor
    · rintro rfl
      exact ⟨_, hends⟩
    · rintro ⟨fuel, hdraw⟩
      exact drawTable_unique hends hdraw

/-- **Drawing ends exactly if every package has a root.** -/
theorem drawingEnds_iff {packages : List String} : DrawingEnds packages ↔ ∀ p ∈ packages, isRootless p = false := by
  have hsome : DrawingEnds packages ↔ (packageTree? packages).isSome := by
    simp only [DrawingEnds, Option.isSome_iff_exists, packageTree?_eq_some_iff]
    exact exists_comm
  rw [hsome, packageTree?]
  split
  · next hany => simpa using hany
  · next hany => simpa using hany

end SpringAtlas
