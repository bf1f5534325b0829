import SpringAtlas.Proofs.Settings.Gateway

/-!
# `Proofs.Settings.Leaves` — flattening a document loses none of its leaves

The entries of a document are made from the inside: each part is flattened, and its entries are set among those of the
other parts, where a key that is there already would be overwritten. Nothing is overwritten, because the key of a leaf tells
the way to it. The keys of mappings hold neither a dot nor an opening bracket, so a path falls apart into its steps from the
left (`written_injective`), and different leaves have different ways (`nodup_way`).

A leaf may have no text: an integer with more digits than are written has none, neither has a set or a pair that holds
one, and what stands for a collection inside itself has no end. Flattening then fails with the fault of the first such
leaf, because it takes the leaves in the order of the document (`flatten_eq_mapM`).

## Contents
* `Step`, `pathFrom`, `pathFrom_injective` — ways and the paths that are written for them
* `Leaf`, `leaves`, `Plain` — the leaves of a document, and the documents whose keys can stand in a path
* `nodup_path` — different leaves have different paths
* `flatten_eq_mapM`, `flatten_leaves` — exactly what flattening returns
-/

namespace SpringAtlas.Settings

/-! ## Ways and paths -/

/-- One step into a document: to the value of a key, or to an item of a list. -/
inductive Step where
  | key (name : String)
  | index (i : Nat)

/-- A character that starts a step in a path. -/
def startsStep (c : Char) : Bool :=
  c == '.' || c == '['

/-- A name that can stand in a path: it is not empty, and no character of it starts a step. -/
def isSegment (name : String) : Bool :=
  name != "" && name.toList.all fun c => !startsStep c

theorem isSegment_iff {name : String} : isSegment name ↔ name ≠ "" ∧ ∀ c ∈ name.toList, startsStep c = false := by
  simp [isSegment]

namespace Step

/-- The path of what the step leads to. -/
def below (path : String) : Step → String
  | key name => childPath path name
  | index i => itemPath path i

/-- The step as it is written behind a path. -/
def written : Step → List Char
  | key name => '.' :: name.toList
  | index i => '[' :: (Nat.toDigits 10 i ++ [']'])

/-- The step can be read back: its key can stand in a path. -/
def isValid : Step → Bool
  | key name => isSegment name
  | index _ => true

end Step

/-- The path of what some steps lead to. -/
def pathFrom (path : String) (way : List Step) : String :=
  way.foldl Step.below path

theorem toList_pathFrom {path : String} (h : path ≠ "") (way : List Step) :
    (pathFrom path way).toList = path.toList ++ way.flatMap Step.written := by
  induction way generalizing path with
  | nil => simp [pathFrom]
  | cons s way ih =>
    have hbelow : (s.below path).toList = path.toList ++ s.written := by
      cases s with
      | key name => simp [Step.below, Step.written, childPath_eq h]
      | index i => simp [Step.below, Step.written, itemPath]
    have hne : s.below path ≠ "" := by
      intro hempty
      rw [hempty] at hbelow
      exact h (String.toList_eq_nil_iff.1 (List.append_eq_nil_iff.1 hbelow.symm).1)
    show (pathFrom (s.below path) way).toList = _
    rw [ih hne, hbelow, List.flatMap_cons, List.append_assoc]

/-! ## Reading the steps back -/

/-- Where a text is cut in front of the first character of a class, the cut is unique. -/
theorem append_inj_of_class {p : Char → Bool} {k k' x y : List Char} (hk : ∀ c ∈ k, p c = false)
    (hk' : ∀ c ∈ k', p c = false) (hx : x.head?.all p) (hy : y.head?.all p) (h : k ++ x = k' ++ y) :
    k = k' ∧ x = y := by
  have hcut : ∀ {u v : List Char}, (∀ c ∈ u, p c = false) → v.head?.all p →
      (u ++ v).takeWhile (fun c => !p c) = u := by
    intro u v hu hv
    rw [List.takeWhile_append_of_pos (by simpa using hu)]
    cases v with
    | nil => simp
    | cons c v =>
      rw [List.takeWhile_cons_of_neg (by simpa using hv), List.append_nil]
  have hfront : k = k' := by
    rw [← hcut hk hx, h, hcut hk' hy]
  subst hfront
  exact ⟨rfl, List.append_cancel_left h⟩

/-- Behind a step the next one starts with a mark of its own. -/
theorem head?_written (way : List Step) : (way.flatMap Step.written).head?.all startsStep := by
  cases way with
  | nil => rfl
  | cons s way => cases s <;> rfl

/-- **The steps of a way can be read off its path**, one by one from the left. -/
theorem written_injective {way way' : List Step} (hway : ∀ s ∈ way, s.isValid) (hway' : ∀ s ∈ way', s.isValid)
    (h : way.flatMap Step.written = way'.flatMap Step.written) : way = way' := by
  induction way generalizing way' with
  | nil =>
    cases way' with
    | nil => rfl
    | cons s' way' => cases s' <;> cases h
  | cons s way ih =>
    cases way' with
    | nil => cases s <;> cases h
    | cons s' way' =>
      have htail : way.flatMap Step.written = way'.flatMap Step.written → way = way' :=
        ih (fun t ht => hway t (List.mem_cons_of_mem _ ht)) fun t ht => hway' t (List.mem_cons_of_mem _ ht)
      have hvalid := hway s List.mem_cons_self
      have hvalid' := hway' s' List.mem_cons_self
      rw [List.flatMap_cons, List.flatMap_cons] at h
      cases s with
      | key name =>
        cases s' with
        | key name' =>
          obtain ⟨hname, hrest⟩ := append_inj_of_class (isSegment_iff.1 hvalid).2 (isSegment_iff.1 hvalid').2
            (head?_written way) (head?_written way') (List.cons.inj h).2
          rw [String.toList_inj.1 hname, htail hrest]
        | index i => cases h
      | index i =>
        cases s' with
        | key name' => cases h
        | index i' =>
          have hdigits : ∀ (n : Nat), ∀ c ∈ Nat.toDigits 10 n, (c == ']') = false := by
            intro n c hc
            rw [← Bool.not_eq_true, beq_iff_eq]
            rintro rfl
            exact absurd (isAsciiDigit_of_mem_toDigits hc) (by decide)
          have hlist : Nat.toDigits 10 i ++ ']' :: way.flatMap Step.written =
              Nat.toDigits 10 i' ++ ']' :: way'.flatMap Step.written := by
            simpa [Step.written] using h
          obtain ⟨hindex, hrest⟩ := append_inj_of_class (hdigits i) (hdigits i') rfl rfl hlist
          rw [toDigits_injective hindex, htail (List.cons.inj hrest).2]

/-- A path from the root, with the dot that its first key has lost. -/
def redotted (path : List Char) : List Char :=
  if path.head?.all (· == '[') then path else '.' :: path

theorem redotted_pathFrom {way : List Step} (hway : ∀ s ∈ way, s.isValid) :
    redotted (pathFrom "" way).toList = way.flatMap Step.written := by
  cases way with
  | nil => rfl
  | cons s way =>
    show redotted (pathFrom (s.below "") way).toList = _
    cases s with
    | key name =>
      obtain ⟨hne, hplain⟩ := isSegment_iff.1 (hway _ List.mem_cons_self)
      have hbelow : (Step.key name).below "" = name := by
        simp [Step.below, childPath]
      obtain ⟨c, cs, hname⟩ := List.exists_cons_of_ne_nil (mt String.toList_eq_nil_iff.1 hne)
      have hc : (c == '[') = false := (Bool.or_eq_false_iff.1 (hplain c (by simp [hname]))).2
      rw [hbelow, toList_pathFrom hne, List.flatMap_cons, Step.written, hname, redotted, if_neg (by simp [hc])]
      rfl
    | index i =>
      have hbelow : ((Step.index i).below "").toList = (Step.index i).written := by
        simp [Step.below, Step.written, itemPath]
      rw [toList_pathFrom (by simp [Step.below, itemPath]), hbelow]
      rfl

/-- **Different ways have different paths**, below any path. -/
theorem pathFrom_injective {path : String} {way way' : List Step} (hway : ∀ s ∈ way, s.isValid)
    (hway' : ∀ s ∈ way', s.isValid) (h : pathFrom path way = pathFrom path way') : way = way' := by
  apply written_injective hway hway'
  by_cases hpath : path = ""
  · subst hpath
    rw [← redotted_pathFrom hway, ← redotted_pathFrom hway', h]
  · have hlist := congrArg String.toList h
    rw [toList_pathFrom hpath, toList_pathFrom hpath] at hlist
    exact List.append_cancel_left hlist

/-! ## Leaves -/

/-- What stands for a collection inside itself. -/
def isEndless : Yaml.Value → Bool
  | .again _ => true
  | _ => false

/-- The text of a leaf; a collection inside itself has no end. -/
def leafText (v : Yaml.Value) : Except Yaml.Fault String :=
  if isEndless v then .error .endless else scalarText v

/-- Whether a leaf has a text. -/
def hasText (v : Yaml.Value) : Bool :=
  !isEndless v && v.fitsText

/-- A leaf of a document and the way to it. -/
structure Leaf where
  way : List Step
  value : Yaml.Value

namespace Leaf

def path (l : Leaf) : String :=
  pathFrom "" l.way

/-- The leaf seen from one step further out. -/
def under (s : Step) (l : Leaf) : Leaf :=
  { l with way := s :: l.way }

/-- The entry of a leaf below a path. -/
def entry (path : String) (l : Leaf) : Except Yaml.Fault (String × String) :=
  (leafText l.value).map fun text => (pathFrom path l.way, text)

end Leaf

mutual

/-- The leaves of a document, in its order. -/
def leaves : Yaml.Value → List Leaf
  | .map entries => entryLeaves entries
  | .list items => itemLeaves items 0
  | v => [⟨[], v⟩]

def entryLeaves : List (Yaml.Value × Yaml.Value) → List Leaf
  | [] => []
  | (k, v) :: rest => (leaves v).map (Leaf.under (.key k.text)) ++ entryLeaves rest

def itemLeaves : List Yaml.Value → Nat → List Leaf
  | [], _ => []
  | v :: rest, i => (leaves v).map (Leaf.under (.index i)) ++ itemLeaves rest (i + 1)

end

theorem entryLeaves_eq (entries : List (Yaml.Value × Yaml.Value)) :
    entryLeaves entries = entries.flatMap fun e => (leaves e.2).map (Leaf.under (.key e.1.text)) := by
  induction entries with
  | nil => rfl
  | cons e entries ih => rw [entryLeaves, ih, List.flatMap_cons]

theorem itemLeaves_eq (items : List Yaml.Value) (k : Nat) :
    itemLeaves items k = (items.zipIdx k).flatMap fun x => (leaves x.1).map (Leaf.under (.index x.2)) := by
  induction items generalizing k with
  | nil => rfl
  | cons v items ih => rw [itemLeaves, ih, List.zipIdx_cons, List.flatMap_cons]

/-- A mapping or a list. -/
def isCollection : Yaml.Value → Bool
  | .map _ | .list _ => true
  | _ => false

/-- A text that can stand in a path. -/
def isPathKey : Yaml.Value → Bool
  | .str name => isSegment name
  | _ => false

theorem exists_of_isPathKey {k : Yaml.Value} (h : isPathKey k) : ∃ name, k = .str name ∧ isSegment name := by
  cases k with
  | str name => exact ⟨name, rfl, h⟩
  | _ => cases h

/-- A document whose mappings have distinct texts as keys that can stand in a path. -/
inductive Plain : Yaml.Value → Prop
  | leaf {v : Yaml.Value} (h : isCollection v = false) : Plain v
  | list {items : List Yaml.Value} (h : ∀ v ∈ items, Plain v) : Plain (.list items)
  | map {entries : List (Yaml.Value × Yaml.Value)} (hkeys : ∀ e ∈ entries, isPathKey e.1)
      (hdistinct : (entries.map fun e => e.1.text).Nodup) (h : ∀ e ∈ entries, Plain e.2) : Plain (.map entries)

/-- What is no collection is its own leaf. -/
theorem leaves_of_leaf {v : Yaml.Value} (h : isCollection v = false) : leaves v = [⟨[], v⟩] := by
  cases v <;> first | rfl | cases h

theorem flatten_of_leaf {v : Yaml.Value} (h : isCollection v = false) {path : String} (hpath : path ≠ "") :
    flatten v path = (leafText v).map fun text => [(path, text)] := by
  by_cases hends : isEndless v = true
  · cases v with
    | again _ => rfl
    | _ => cases hends
  · have hflatten : flatten v path =
        if path.isEmpty then .ok [] else (scalarText v).map fun text => [(path, text)] := by
      cases v with
      | map _ | list _ => cases h
      | again _ => exact absurd rfl hends
      | _ => rfl
    rw [hflatten, leafText, if_neg hends, if_neg (by simpa using hpath)]

/-! ## Different leaves -/

/-- The ways to the leaves of a plain document have valid steps. -/
theorem valid_way {v : Yaml.Value} (hv : Plain v) : ∀ l ∈ leaves v, ∀ s ∈ l.way, s.isValid := by
  induction hv with
  | leaf h =>
    rw [leaves_of_leaf h]
    intro l hl s hs
    rw [List.mem_singleton.1 hl] at hs
    cases hs
  | list _ ih =>
    rw [leaves, itemLeaves_eq]
    intro l hl s hs
    obtain ⟨x, hx, hl⟩ := List.mem_flatMap.1 hl
    obtain ⟨l', hl', rfl⟩ := List.mem_map.1 hl
    rcases List.mem_cons.1 hs with rfl | hs
    · rfl
    · exact ih x.1 (List.fst_mem_of_mem_zipIdx hx) l' hl' s hs
  | map hkeys _ _ ih =>
    rw [leaves, entryLeaves_eq]
    intro l hl s hs
    obtain ⟨e, he, hl⟩ := List.mem_flatMap.1 hl
    obtain ⟨l', hl', rfl⟩ := List.mem_map.1 hl
    rcases List.mem_cons.1 hs with rfl | hs
    · obtain ⟨name, hname, hsegment⟩ := exists_of_isPathKey (hkeys e he)
      rw [hname]
      exact hsegment
    · exact ih e he l' hl' s hs

/-- **Different leaves have different ways.** -/
theorem nodup_way {v : Yaml.Value} (hv : Plain v) : ((leaves v).map Leaf.way).Nodup := by
  induction hv with
  | leaf h =>
    rw [leaves_of_leaf h]
    exact List.nodup_singleton _
  | @list items _ ih =>
    have hways : (leaves (.list items)).map Leaf.way =
        (items.zipIdx.flatMap fun x => ((leaves x.1).map Leaf.way).map fun way => (x.2, way)).map
          fun y => .index y.1 :: y.2 := by
      rw [leaves, itemLeaves_eq]
      simp [List.map_flatMap, Function.comp_def, Leaf.under]
    rw [hways]
    refine (nodup_zipIdx_flatMap ih 0).map ?_
    intro y y' h
    have hindex : y.1 = y'.1 := Step.index.inj (List.cons.inj h).1
    exact Prod.ext hindex (List.cons.inj h).2
  | @map entries hkeys hdistinct _ ih =>
    rw [leaves, entryLeaves_eq, List.map_flatMap, List.nodup_flatMap]
    constructor
    · intro e he
      have hways := (ih e he).map (f := fun way => Step.key e.1.text :: way) fun _ _ h => (List.cons.inj h).2
      simpa [Function.comp_def, Leaf.under] using hways
    · -- ways into different entries start with different keys
      rw [List.Nodup, List.pairwise_map] at hdistinct
      refine hdistinct.imp ?_
      intro e e' hne way hway hway'
      obtain ⟨l, hl, rfl⟩ := List.mem_map.1 hway
      obtain ⟨l₁, -, rfl⟩ := List.mem_map.1 hl
      obtain ⟨l', hl', heq⟩ := List.mem_map.1 hway'
      obtain ⟨l₂, -, rfl⟩ := List.mem_map.1 hl'
      exact hne (Step.key.inj (List.cons.inj heq).1).symm

/-- Different leaves have different paths, below any path. -/
theorem nodup_pathFrom {v : Yaml.Value} (hv : Plain v) (path : String) :
    ((leaves v).map fun l => pathFrom path l.way).Nodup := by
  have hmap : ((leaves v).map fun l => pathFrom path l.way) = ((leaves v).map Leaf.way).map (pathFrom path) := by
    rw [List.map_map]
    rfl
  rw [hmap]
  refine (nodup_way hv).map_on ?_
  intro way hway way' hway' h
  obtain ⟨l, hl, rfl⟩ := List.mem_map.1 hway
  obtain ⟨l', hl', rfl⟩ := List.mem_map.1 hway'
  exact pathFrom_injective (valid_way hv l hl) (valid_way hv l' hl') h

/-! ## What flattening returns -/

theorem entry_eq_ok {path : String} {l : Leaf} {e : String × String} :
    l.entry path = .ok e ↔ e.1 = pathFrom path l.way ∧ leafText l.value = .ok e.2 := by
  rw [Leaf.entry]
  cases htext : leafText l.value with
  | error fault =>
    constructor
    · intro h
      cases h
    · rintro ⟨-, h⟩
      cases h
  | ok text =>
    constructor
    · intro h
      cases h
      exact ⟨rfl, rfl⟩
    · rintro ⟨hpath, h⟩
      cases h
      rw [← hpath]
      rfl

/-- The keys of the entries of some leaves are their paths. -/
theorem keys_of_mapM_entry {path : String} {ls : List Leaf} {es : Entries} (h : ls.mapM (Leaf.entry path) = .ok es) :
    es.map Prod.fst = ls.map fun l => pathFrom path l.way := by
  have hall := forall₂_of_mapM_eq_ok h
  clear h
  induction hall with
  | nil => rfl
  | cons hentry _ ih => rw [List.map_cons, List.map_cons, ih, (entry_eq_ok.1 hentry).1]

/-- The entries of one part, set among those of the others, are the entries of all their leaves: no path occurs twice. -/
theorem update_mapM_entry {path : String} (s : Step) {part rest : List Leaf}
    (h : ((part.map (Leaf.under s) ++ rest).map fun l => pathFrom path l.way).Nodup) :
    (do
      let found ← part.mapM (Leaf.entry (s.below path))
      return Entries.update found (← rest.mapM (Leaf.entry path))) =
    (part.map (Leaf.under s) ++ rest).mapM (Leaf.entry path) := by
  have hunder : (part.map (Leaf.under s)).mapM (Leaf.entry path) = part.mapM (Leaf.entry (s.below path)) := by
    rw [List.mapM_map]
    rfl
  rw [List.mapM_append, hunder]
  cases hfound : part.mapM (Leaf.entry (s.below path)) with
  | error fault => rfl
  | ok found =>
    cases hmore : rest.mapM (Leaf.entry path) with
    | error fault => rfl
    | ok more =>
      have hkeys : ((found ++ more).map Prod.fst).Nodup := by
        rw [hfound] at hunder
        rwa [List.map_append, keys_of_mapM_entry hunder, keys_of_mapM_entry hmore, ← List.map_append]
      show Except.ok (Entries.update found more) = Except.ok (found ++ more)
      rw [Entries.update_eq_append hkeys]

theorem flattenItems_eq_mapM {items : List Yaml.Value} {path : String}
    (h : ∀ v ∈ items, ∀ i, flatten v (itemPath path i) = (leaves v).mapM (Leaf.entry (itemPath path i))) {k : Nat}
    (hnodup : ((itemLeaves items k).map fun l => pathFrom path l.way).Nodup) :
    flattenItems items path k = (itemLeaves items k).mapM (Leaf.entry path) := by
  induction items generalizing k with
  | nil => rfl
  | cons v items ih =>
    rw [itemLeaves] at hnodup ⊢
    have hrest := ih (fun v' hv' => h v' (List.mem_cons_of_mem _ hv')) (by
      rw [List.map_append] at hnodup
      exact hnodup.of_append_right)
    rw [flattenItems, h v List.mem_cons_self, hrest, ← update_mapM_entry _ hnodup]
    rfl

theorem flattenEntries_eq_mapM {entries : List (Yaml.Value × Yaml.Value)} {path : String}
    (hkeys : ∀ e ∈ entries, isPathKey e.1)
    (h : ∀ e ∈ entries, flatten e.2 (childPath path e.1.text) = (leaves e.2).mapM (Leaf.entry (childPath path e.1.text)))
    (hnodup : ((entryLeaves entries).map fun l => pathFrom path l.way).Nodup) :
    flattenEntries entries path = (entryLeaves entries).mapM (Leaf.entry path) := by
  induction entries with
  | nil => rfl
  | cons e entries ih =>
    rw [entryLeaves] at hnodup ⊢
    have hrest := ih (fun e' he' => hkeys e' (List.mem_cons_of_mem _ he')) (fun e' he' => h e' (List.mem_cons_of_mem _ he'))
      (by
        rw [List.map_append] at hnodup
        exact hnodup.of_append_right)
    obtain ⟨name, hname, -⟩ := exists_of_isPathKey (hkeys e List.mem_cons_self)
    have hkey : e.1.text? = .ok e.1.text := by
      rw [hname, text?_str]
      rfl
    rw [flattenEntries, hkey, ← update_mapM_entry _ hnodup, ← hrest]
    show (flatten e.2 (childPath path e.1.text) >>= _) = _
    rw [h e List.mem_cons_self]
    rfl

/-- **Flattening goes through the leaves** in the order of the document, and makes an entry of each. -/
theorem flatten_eq_mapM {v : Yaml.Value} (hv : Plain v) {path : String} (hpath : path ≠ "" ∨ isCollection v) :
    flatten v path = (leaves v).mapM (Leaf.entry path) := by
  induction hv generalizing path with
  | @leaf v h =>
    have hne : path ≠ "" := hpath.resolve_right (by simp [h])
    rw [flatten_of_leaf h hne, leaves_of_leaf h, List.mapM_cons, Leaf.entry]
    cases leafText v with
    | error fault => rfl
    | ok text => rfl
  | @list items hitems ih =>
    rw [flatten, leaves]
    refine flattenItems_eq_mapM (fun v hv i => ih v hv (Or.inl (by simp [itemPath]))) ?_
    exact nodup_pathFrom (.list hitems) path
  | @map entries hkeys hdistinct hentries ih =>
    rw [flatten, leaves]
    refine flattenEntries_eq_mapM hkeys (fun e he => ih e he (Or.inl ?_)) ?_
    · obtain ⟨name, hname, hsegment⟩ := exists_of_isPathKey (hkeys e he)
      rw [hname]
      by_cases hroot : path = ""
      · rw [hroot]
        exact (isSegment_iff.1 hsegment).1
      · rw [childPath_eq hroot]
        simp [hroot]
    · exact nodup_pathFrom (.map hkeys hdistinct hentries) path

/-! ## Leaves without a text -/

theorem scalarText_of_fitsText {v : Yaml.Value} (h : v.fitsText) : ∃ text, scalarText v = .ok text := by
  have htext : v.text? = .ok v.text := by
    rw [Yaml.Value.text?, if_pos h]
  cases v with
  | null | bool _ => exact ⟨_, rfl⟩
  | _ => exact ⟨_, htext⟩

theorem scalarText_of_not_fitsText {v : Yaml.Value} (h : v.fitsText = false) :
    scalarText v = .error .unwrittenInteger := by
  have htext : v.text? = .error .unwrittenInteger := by
    rw [Yaml.Value.text?, h, if_neg Bool.false_ne_true]
  cases v with
  | null | bool _ => cases h
  | _ => exact htext

theorem leafText_of_hasText {v : Yaml.Value} (h : hasText v) : ∃ text, leafText v = .ok text := by
  obtain ⟨hends, hfits⟩ := Bool.and_eq_true_iff.1 h
  rw [leafText, if_neg (by simpa using hends)]
  exact scalarText_of_fitsText hfits

theorem leafText_of_not_hasText {v : Yaml.Value} (h : hasText v = false) : ∃ fault, leafText v = .error fault := by
  rw [leafText]
  by_cases hends : isEndless v = true
  · rw [if_pos hends]
    exact ⟨_, rfl⟩
  · rw [if_neg hends]
    exact ⟨_, scalarText_of_not_fitsText (by simpa [hasText, hends] using h)⟩

/-- Of leaves without a text the first one says how making entries fails. -/
theorem mapM_entry_of_find? {path : String} {ls : List Leaf} {l : Leaf} {fault : Yaml.Fault}
    (h : ls.find? (fun l => !hasText l.value) = some l) (hfault : leafText l.value = .error fault) :
    ls.mapM (Leaf.entry path) = .error fault := by
  induction ls with
  | nil => cases h
  | cons l' ls ih =>
    rw [List.mapM_cons, Leaf.entry]
    cases htext : hasText l'.value with
    | false =>
      rw [List.find?_cons_of_pos (by simp [htext])] at h
      obtain rfl : l' = l := Option.some.inj h
      rw [hfault]
      rfl
    | true =>
      rw [List.find?_cons_of_neg (by simp [htext])] at h
      obtain ⟨text, htext⟩ := leafText_of_hasText htext
      rw [htext, ih h]
      rfl

/-- **Flattening loses nothing.** It makes one entry of each leaf of a document, in its order: the key is the path of the
    leaf, the value its text, and no two leaves have one path. Where some leaf has no text, because it is or holds an integer
    with more digits than are written or stands for a collection inside itself, flattening fails with the fault of the first
    such leaf. -/
theorem flatten_leaves {v : Yaml.Value} (hv : Plain v) (hroot : isCollection v) :
    ((leaves v).map Leaf.path).Nodup ∧
    ((∀ l ∈ leaves v, hasText l.value) → ∃ es, flatten v "" = .ok es ∧
      List.Forall₂ (fun l e => e.1 = l.path ∧ leafText l.value = .ok e.2) (leaves v) es) ∧
    ∀ l, (leaves v).find? (fun l => !hasText l.value) = some l →
      ∃ fault, leafText l.value = .error fault ∧ flatten v "" = .error fault := by
  have hflatten : flatten v "" = (leaves v).mapM (Leaf.entry "") := flatten_eq_mapM hv (Or.inr hroot)
  refine ⟨nodup_pathFrom hv "", ?_, ?_⟩
  · intro htexts
    have hreturns : ∃ es, (leaves v).mapM (Leaf.entry "") = .ok es := by
      rw [mapM_returns_iff]
      intro l hl
      obtain ⟨text, htext⟩ := leafText_of_hasText (htexts l hl)
      exact ⟨(l.path, text), entry_eq_ok.2 ⟨rfl, htext⟩⟩
    obtain ⟨es, hes⟩ := hreturns
    refine ⟨es, hflatten.trans hes, ?_⟩
    exact (forall₂_of_mapM_eq_ok hes).imp fun l e he => entry_eq_ok.1 he
  · intro l hl
    have hno : hasText l.value = false := by simpa using List.find?_some hl
    obtain ⟨fault, hfault⟩ := leafText_of_not_hasText hno
    exact ⟨fault, hfault, hflatten.trans (mapM_entry_of_find? hl hfault)⟩

/-- A document with lists and mappings inside each other, with keys of one name at different places. -/
def nestedDocument : Yaml.Value :=
  .map [(.str "a", .map [(.str "b", .int 1), (.str "c", .list [.str "x", .map [(.str "b", .bool true)]])]),
    (.str "b", .list [.list [], .list [.null]])]

theorem plain_nestedDocument : Plain nestedDocument := by
  have hinner : Plain (.list [.str "x", .map [(.str "b", .bool true)]]) := by
    refine .list (List.forall_mem_cons.2 ⟨.leaf rfl, List.forall_mem_singleton.2 ?_⟩)
    exact .map (by decide) (by decide) (List.forall_mem_singleton.2 (.leaf rfl))
  have hempty : Plain (.list []) := .list (List.forall_mem_nil _)
  refine .map (by decide) (by decide) (List.forall_mem_cons.2 ⟨?_, List.forall_mem_singleton.2 ?_⟩)
  · exact .map (by decide) (by decide) (List.forall_mem_cons.2 ⟨.leaf rfl, List.forall_mem_singleton.2 hinner⟩)
  · refine .list (List.forall_mem_cons.2 ⟨hempty, List.forall_mem_singleton.2 ?_⟩)
    exact .list (List.forall_mem_singleton.2 (.leaf rfl))

theorem flatten_leaves_nestedDocument :
    Plain nestedDocument ∧ isCollection nestedDocument ∧ (∀ l ∈ leaves nestedDocument, hasText l.value) ∧
    (leaves nestedDocument).map Leaf.path = ["a.b", "a.c[0]", "a.c[1].b", "b[1][0]"] ∧
    flatten nestedDocument "" = .ok [("a.b", "1"), ("a.c[0]", "x"), ("a.c[1].b", "true"), ("b[1][0]", "")] ∧
    ((leaves nestedDocument).map Leaf.path).Nodup ∧
    ∃ es, flatten nestedDocument "" = .ok es ∧
      List.Forall₂ (fun l e => e.1 = l.path ∧ leafText l.value = .ok e.2) (leaves nestedDocument) es := by
  have htexts : ∀ l ∈ leaves nestedDocument, hasText l.value := by decide +kernel
  obtain ⟨hnodup, hentries, -⟩ := flatten_leaves plain_nestedDocument rfl
  exact ⟨plain_nestedDocument, rfl, htexts, by decide, by decide +kernel, hnodup, hentries htexts⟩

/-- A document whose only leaf is an integer of 4335 digits. -/
def longDocument : Yaml.Value :=
  .map [(.str "a", .int (Int.ofNat (16 ^ 3600 - 1)))]

/-- **An integer that is too long has no entry**: the document has a leaf, and flattening returns nothing. -/
theorem flatten_longDocument :
    Plain longDocument ∧ isCollection longDocument ∧ (leaves longDocument).map Leaf.path = ["a"] ∧
    ¬ ∃ es, flatten longDocument "" = .ok es := by
  have hplain : Plain longDocument := .map (by decide) (by decide) (List.forall_mem_singleton.2 (.leaf rfl))
  refine ⟨hplain, rfl, by decide, ?_⟩
  rintro ⟨es, hes⟩
  have hlong : hasText (.int (Int.ofNat (16 ^ 3600 - 1))) = false := by decide +kernel
  have hfirst : (leaves longDocument).find? (fun l => !hasText l.value) =
      some ⟨[.key "a"], .int (Int.ofNat (16 ^ 3600 - 1))⟩ :=
    List.find?_cons_of_pos (congrArg not hlong)
  obtain ⟨fault, hfault⟩ := leafText_of_not_hasText hlong
  rw [flatten_eq_mapM hplain (Or.inr rfl), mapM_entry_of_find? hfirst hfault] at hes
  cases hes

end SpringAtlas.Settings
