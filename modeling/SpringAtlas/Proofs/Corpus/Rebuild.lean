import SpringAtlas.Proofs.Corpus.Distinct

/-!
# `Proofs.Corpus.Rebuild` — a corpus built from its own files

A corpus keeps its files under normalized paths and looks paths up in normalized form. The two agree where a normalized
path stays as it is when it is normalized again. Normalizing drops each `./` in front and then the slashes that follow; a
`./` behind these slashes is left standing. A file with such a path is not found under the path it is kept under, and it
gets another one when the corpus is built again.

## Contents
* `Path.Hides`, `normalize_normalize_iff` — the paths that change when they are normalized again
* `mem_map_distinctBy`, `distinctBy_map_eq_iff` — keeping the first element of each key
* `Corpus.Settled`, `ofFiles_settled_iff` — corpora that find their files and are built again as they are
-/

namespace SpringAtlas

/-! ## Paths -/

namespace Path

/-- The path with forward slashes. -/
def turned (path : List Char) : List Char :=
  path.map fun c => if c == '\\' then '/' else c

/-- Slashes stand in front of the path, perhaps behind some `./`, and a `./` follows them. -/
def Hides (path : List Char) : Prop :=
  ∃ (n k : Nat) (rest : List Char),
    turned path = (List.replicate n ['.', '/']).flatten ++ (List.replicate (k + 1) '/' ++ '.' :: '/' :: rest)

/-- Normalizing a path turns its backslashes, drops the steps to the place itself, and then the slashes in front. -/
theorem normalize_eq (path : List Char) : normalize path = (dropHere (turned path)).dropWhile (· == '/') :=
  rfl

theorem turned_eq_self {path : List Char} (h : '\\' ∉ path) : turned path = path := by
  have hsame : ∀ c ∈ path, (if c == '\\' then '/' else c) = c := by
    intro c hc
    have hne : c ≠ '\\' := fun he => h (he ▸ hc)
    simp [hne]
  rw [turned, List.map_congr_left hsame, List.map_id']

theorem backslash_not_mem_turned (path : List Char) : '\\' ∉ turned path := by
  intro h
  obtain ⟨c, -, hc⟩ := List.mem_map.1 h
  split at hc
  · cases hc
  · next hne => exact hne (by simp [hc])

/-- Dropping steps to the place itself leaves the end of a path. -/
theorem dropHere_suffix (cs : List Char) : dropHere cs <:+ cs := by
  fun_induction dropHere cs with
  | case1 cs ih => exact ih.trans (List.suffix_append ['.', '/'] cs)
  | case2 cs _ => exact List.suffix_rfl

/-- What is dropped is a number of `./`, and no further one follows. -/
theorem dropHere_split (cs : List Char) :
    ∃ n, cs = (List.replicate n ['.', '/']).flatten ++ dropHere cs ∧ ¬ ['.', '/'] <+: dropHere cs := by
  fun_induction dropHere cs with
  | case1 cs ih =>
    obtain ⟨n, hcs, hno⟩ := ih
    refine ⟨n + 1, ?_, hno⟩
    rw [List.replicate_succ, List.flatten_cons, List.append_assoc, ← hcs]
    rfl
  | case2 cs hno =>
    refine ⟨0, rfl, ?_⟩
    rintro ⟨rest, rfl⟩
    exact hno rest rfl

theorem dropHere_of_not_here {cs : List Char} (h : ¬ ['.', '/'] <+: cs) : dropHere cs = cs := by
  rw [dropHere]
  rintro rest rfl
  exact h ⟨rest, rfl⟩

theorem dropHere_replicate_append (n : Nat) {cs : List Char} (h : ¬ ['.', '/'] <+: cs) :
    dropHere ((List.replicate n ['.', '/']).flatten ++ cs) = cs := by
  induction n with
  | zero => exact dropHere_of_not_here h
  | succ n ih =>
    rw [List.replicate_succ, List.flatten_cons, List.append_assoc]
    exact ih

/-- A normalized path has no backslash. -/
theorem backslash_not_mem_normalize (path : List Char) : '\\' ∉ normalize path := by
  intro h
  have hdropped : '\\' ∈ dropHere (turned path) := (List.dropWhile_suffix _).subset h
  exact backslash_not_mem_turned path ((dropHere_suffix _).subset hdropped)

/-- A normalized path does not start with a slash. -/
theorem head?_normalize_ne (path : List Char) : (normalize path).head? ≠ some '/' := by
  intro h
  have hhead := List.head?_dropWhile_not (· == '/') (dropHere (turned path))
  rw [← normalize_eq, h] at hhead
  cases hhead

/-- A path that is normalized stays as it is, unless `./` stands in front of it. -/
theorem normalize_eq_self_iff {path : List Char} (hslash : path.head? ≠ some '/') (hback : '\\' ∉ path) :
    normalize path = path ↔ ¬ ['.', '/'] <+: path := by
  rw [normalize_eq, turned_eq_self hback]
  constructor
  · rintro h ⟨rest, rfl⟩
    -- two characters are gone, and nothing is ever added
    have hshort : ((dropHere rest).dropWhile (· == '/')).length ≤ rest.length :=
      ((List.dropWhile_suffix _).trans (dropHere_suffix rest)).length_le
    have hlength := congrArg List.length h
    change ((dropHere rest).dropWhile (· == '/')).length = rest.length + 1 + 1 at hlength
    omega
  · intro h
    rw [dropHere_of_not_here h]
    cases path with
    | nil => rfl
    | cons c cs =>
      have hne : (c == '/') = false := by simpa using hslash
      rw [List.dropWhile_cons, hne, if_neg Bool.false_ne_true]

/-- A `./` stands in front of a normalized path exactly if slashes hid it. -/
theorem here_prefix_normalize_iff (path : List Char) : ['.', '/'] <+: normalize path ↔ Hides path := by
  constructor
  · rintro ⟨rest, hrest⟩
    obtain ⟨n, hsplit, hno⟩ := dropHere_split (turned path)
    rw [normalize_eq] at hrest
    have hslashes : ∀ c ∈ (dropHere (turned path)).takeWhile (· == '/'), c = '/' := by
      intro c hc
      simpa using List.all_eq_true.1 List.all_takeWhile c hc
    have hparts : dropHere (turned path) =
        (dropHere (turned path)).takeWhile (· == '/') ++ '.' :: '/' :: rest := by
      exact List.takeWhile_append_dropWhile.symm.trans (congrArg _ hrest.symm)
    rw [List.eq_replicate_of_mem hslashes] at hparts
    -- there are slashes, since without them the `./` would have been dropped
    cases hk : ((dropHere (turned path)).takeWhile (· == '/')).length with
    | zero =>
      rw [hk] at hparts
      exact absurd ⟨rest, hparts.symm⟩ hno
    | succ k =>
      rw [hk] at hparts
      exact ⟨n, k, rest, hsplit.trans (congrArg _ hparts)⟩
  · rintro ⟨n, k, rest, hpath⟩
    have hno : ¬ ['.', '/'] <+: List.replicate (k + 1) '/' ++ '.' :: '/' :: rest := by
      rintro ⟨t, ht⟩
      cases ht
    rw [normalize_eq, hpath, dropHere_replicate_append n hno, List.dropWhile_append_of_pos (by simp)]
    exact ⟨rest, rfl⟩

/-- **Normalizing twice changes a path only where slashes hide a `./`.** -/
theorem normalize_normalize_iff (path : List Char) : normalize (normalize path) = normalize path ↔ ¬ Hides path := by
  rw [normalize_eq_self_iff (head?_normalize_ne path) (backslash_not_mem_normalize path), here_prefix_normalize_iff]

end Path

/-! ## Distinct keys -/

section Distinct

variable {α κ : Type} [BEq κ]

theorem distinctBy_sublist (key : α → κ) (xs : List α) : (distinctBy key xs).Sublist xs := by
  induction xs using List.reverseRecOn with
  | nil => exact List.Sublist.slnil
  | append_singleton xs x ih =>
    rw [distinctBy_concat]
    split
    · exact ih.trans (List.sublist_append_left xs [x])
    · exact ih.append (List.Sublist.refl [x])

variable [LawfulBEq κ]

/-- Dropping elements with a key that was there drops no key. -/
theorem mem_map_distinctBy {key : α → κ} {xs : List α} {k : κ} : k ∈ (distinctBy key xs).map key ↔ k ∈ xs.map key := by
  constructor
  · exact fun h => ((distinctBy_sublist key xs).map key).subset h
  · intro h
    obtain ⟨x, hx, rfl⟩ := List.mem_map.1 h
    have hfound : ((distinctBy key xs).find? fun y => key y == key x).isSome := by
      rw [find?_distinctBy]
      exact List.find?_isSome.2 ⟨x, hx, by simp⟩
    obtain ⟨y, hy⟩ := Option.isSome_iff_exists.1 hfound
    exact List.mem_map.2 ⟨y, List.mem_of_find?_eq_some hy, by simpa using List.find?_some hy⟩

/-- Elements with distinct keys are all kept. -/
theorem distinctBy_eq_self {key : α → κ} {xs : List α} (h : (xs.map key).Nodup) : distinctBy key xs = xs := by
  induction xs using List.reverseRecOn with
  | nil => rfl
  | append_singleton xs x ih =>
    rw [List.map_append, List.map_singleton, ← List.concat_eq_append, List.nodup_concat] at h
    have hfree : ((distinctBy key xs).any fun y => key y == key x) = false := by
      rw [List.any_eq_false]
      intro y hy hkey
      rw [ih h.2] at hy
      exact h.1 (List.mem_map.2 ⟨y, hy, by simpa using hkey⟩)
    rw [distinctBy_concat, hfree, ih h.2]
    rfl

/-- Elements with distinct keys are kept under a change of each if and only if nothing changes. -/
theorem distinctBy_map_eq_iff {key : α → κ} {f : α → α} {xs : List α} (h : (xs.map key).Nodup) :
    distinctBy key (xs.map f) = xs ↔ ∀ x ∈ xs, f x = x := by
  constructor
  · intro heq
    -- as many are kept as there are, so none has been dropped
    have hall : distinctBy key (xs.map f) = xs.map f :=
      (distinctBy_sublist key (xs.map f)).eq_of_length (by rw [heq, List.length_map])
    rw [heq] at hall
    intro x hx
    obtain ⟨i, hi, rfl⟩ := List.getElem_of_mem hx
    have hget := congrArg (fun l => l[i]?) hall
    simpa [hi] using hget.symm
  · intro hf
    have hsame : xs.map f = xs := by
      rw [List.map_congr_left hf, List.map_id']
    rw [hsame, distinctBy_eq_self h]

end Distinct

/-! ## Corpora -/

/-- The path of a file or descriptor stays as it is when it is normalized again. -/
def KeepsPath (path : String) : Prop :=
  String.ofList (Path.normalize path.toList) = path

theorem keepsPath_normalize_iff (path : String) :
    KeepsPath (String.ofList (Path.normalize path.toList)) ↔ ¬ Path.Hides path.toList := by
  rw [KeepsPath, String.toList_ofList, String.ofList_inj, Path.normalize_normalize_iff]

theorem SourceFile.normalized_eq_iff (f : SourceFile) : f.normalized = f ↔ KeepsPath f.path := by
  cases f
  simp [SourceFile.normalized, KeepsPath]

theorem BuildDescriptor.normalized_eq_iff (d : BuildDescriptor) : d.normalized = d ↔ KeepsPath d.path := by
  cases d
  simp [BuildDescriptor.normalized, KeepsPath]

namespace Corpus

/-- A corpus whose files have distinct paths and are found under them, and which is built again as it is. -/
structure Settled (c : Corpus) : Prop where
  distinct : (c.files.map SourceFile.path).Nodup
  found : ∀ f ∈ c.files, c.get? f.path = some f
  rebuilt : ofFiles c.files c.descriptors c.name c.skipped = c

/-- A file is found under its own path if that path is looked up as it stands. -/
theorem get?_path_iff {c : Corpus} (hnodup : (c.files.map SourceFile.path).Nodup) {f : SourceFile} (hf : f ∈ c.files) :
    c.get? f.path = some f ↔ KeepsPath f.path := by
  constructor
  · intro h
    have hpath := List.find?_some h
    exact (beq_iff_eq.1 hpath).symm
  · intro h
    have hfirst : f ∈ distinctBy SourceFile.path c.files := by
      rw [distinctBy_eq_self hnodup]
      exact hf
    rw [get?, h]
    exact mem_distinctBy_iff.1 hfirst

section OfFiles

variable (files : List SourceFile) (descriptors : List BuildDescriptor) (name : String) (skipped : List String)

/-- **The paths of a corpus are distinct**, whatever files it was made of. -/
theorem nodup_paths_ofFiles : ((ofFiles files descriptors name skipped).files.map SourceFile.path).Nodup :=
  nodup_map_distinctBy _ _

theorem nodup_descriptorPaths_ofFiles :
    ((ofFiles files descriptors name skipped).descriptors.map BuildDescriptor.path).Nodup :=
  nodup_map_distinctBy _ _

/-- The paths of a corpus are all normal if none of the given paths hides a step to the place itself. -/
theorem keepsPath_files_iff :
    (∀ f ∈ (ofFiles files descriptors name skipped).files, KeepsPath f.path) ↔
      ∀ f ∈ files, ¬ Path.Hides f.path.toList := by
  have hpaths : ∀ p, p ∈ (ofFiles files descriptors name skipped).files.map SourceFile.path ↔
      p ∈ (files.map SourceFile.normalized).map SourceFile.path := fun _ => mem_map_distinctBy
  simp only [← keepsPath_normalize_iff]
  rw [← List.forall_mem_map (P := KeepsPath), forall_congr' fun p => imp_congr_left (hpaths p)]
  simp [SourceFile.normalized]

theorem keepsPath_descriptors_iff :
    (∀ d ∈ (ofFiles files descriptors name skipped).descriptors, KeepsPath d.path) ↔
      ∀ d ∈ descriptors, ¬ Path.Hides d.path.toList := by
  have hpaths : ∀ p, p ∈ (ofFiles files descriptors name skipped).descriptors.map BuildDescriptor.path ↔
      p ∈ (descriptors.map BuildDescriptor.normalized).map BuildDescriptor.path := fun _ => mem_map_distinctBy
  simp only [← keepsPath_normalize_iff]
  rw [← List.forall_mem_map (P := KeepsPath), forall_congr' fun p => imp_congr_left (hpaths p)]
  simp [BuildDescriptor.normalized]

/-- The files of a corpus are found under their paths if no path among those given hides a `./`. -/
theorem ofFiles_found_iff :
    (∀ f ∈ (ofFiles files descriptors name skipped).files,
      (ofFiles files descriptors name skipped).get? f.path = some f) ↔ ∀ f ∈ files, ¬ Path.Hides f.path.toList := by
  rw [← keepsPath_files_iff files descriptors name skipped]
  exact forall₂_congr fun f hf => get?_path_iff (nodup_paths_ofFiles files descriptors name skipped) hf

/-- **Making a corpus of its own files gives it back** if no path hides a step to the place itself. -/
theorem ofFiles_rebuilt_iff :
    ofFiles (ofFiles files descriptors name skipped).files (ofFiles files descriptors name skipped).descriptors name
        skipped = ofFiles files descriptors name skipped ↔
      (∀ f ∈ files, ¬ Path.Hides f.path.toList) ∧ ∀ d ∈ descriptors, ¬ Path.Hides d.path.toList := by
  have hfiles := distinctBy_map_eq_iff (f := SourceFile.normalized) (nodup_paths_ofFiles files descriptors name skipped)
  have hdescriptors := distinctBy_map_eq_iff (f := BuildDescriptor.normalized)
    (nodup_descriptorPaths_ofFiles files descriptors name skipped)
  simp only [SourceFile.normalized_eq_iff, keepsPath_files_iff] at hfiles
  simp only [BuildDescriptor.normalized_eq_iff, keepsPath_descriptors_iff] at hdescriptors
  rw [← hfiles, ← hdescriptors]
  constructor
  · intro h
    exact ⟨congrArg Corpus.files h, congrArg Corpus.descriptors h⟩
  · rintro ⟨hf, hd⟩
    show Corpus.mk _ _ name skipped = _
    rw [hf, hd]
    rfl

/-- **A corpus finds its files and is built again as it is, unless a path hides a `./` behind slashes.** Whatever paths
    are given, those of the files kept are distinct. -/
theorem ofFiles_settled_iff :
    ((ofFiles files descriptors name skipped).files.map SourceFile.path).Nodup ∧
    ((∀ f ∈ (ofFiles files descriptors name skipped).files,
      (ofFiles files descriptors name skipped).get? f.path = some f) ↔ ∀ f ∈ files, ¬ Path.Hides f.path.toList) ∧
    ((ofFiles files descriptors name skipped).Settled ↔
      (∀ f ∈ files, ¬ Path.Hides f.path.toList) ∧ ∀ d ∈ descriptors, ¬ Path.Hides d.path.toList) := by
  have hnodup := nodup_paths_ofFiles files descriptors name skipped
  have hfound := ofFiles_found_iff files descriptors name skipped
  have hrebuilt := ofFiles_rebuilt_iff files descriptors name skipped
  refine ⟨hnodup, hfound, ?_⟩
  constructor
  · intro h
    exact hrebuilt.1 h.rebuilt
  · intro h
    exact
      { distinct := hnodup
        found := hfound.2 h.1
        rebuilt := hrebuilt.2 h }

/-- A file whose path has a slash in front of `./` is kept under a path that it is not found under. -/
theorem not_settled_hiddenHere : ¬ (ofFiles [⟨"/./A.java", "class A \x7b\x7d"⟩] [] "root" []).Settled := by
  have hlost : (ofFiles [⟨"/./A.java", "class A \x7b\x7d"⟩] [] "root" []).files = [⟨"./A.java", "class A \x7b\x7d"⟩] ∧
      (ofFiles [⟨"/./A.java", "class A \x7b\x7d"⟩] [] "root" []).get? "./A.java" = none := by
    decide +kernel
  intro h
  have hfound := h.found ⟨"./A.java", "class A \x7b\x7d"⟩ (by rw [hlost.1]; exact List.mem_singleton.2 rfl)
  rw [hlost.2] at hfound
  cases hfound

end OfFiles

end Corpus

end SpringAtlas
