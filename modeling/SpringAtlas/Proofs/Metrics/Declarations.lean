import Mathlib.Data.Finset.Lattice.Fold
import Mathlib.Order.Lattice.Nat
import SpringAtlas.Proofs.Metrics.Lines
import SpringAtlas.Proofs.Metrics.Prefixes

/-!
# `Proofs.Metrics.Declarations` — lines that declare packages

A line declares a package by its first word, whatever the state of the scanner. Such a line is neither blank nor does it open
a comment, so it counts as code exactly if no comment is open in front of it (`lineKind_of_declares`). Inside of a comment it
counts as a comment and declares its package all the same: the packages of a text are those of its code exactly if no line
inside of a comment starts with the word.

The metrics of a corpus depend on the set of its packages only. So a package that a comment declares does no harm where some
line of code declares it too, in this file or another one, and changes the metrics where none does.

## Contents
* `codeLines`, `codePackages`, `CommentDeclares` — packages of code and of comments
* `lineKind_of_declares`, `mem_packages_iff`, `packages_eq_iff` — the packages of a text
* `CodeMetrics.DescribesPackages`, `codeMetrics_describesPackages` — the packages of a corpus
* `packages_of_code_iff`
-/

namespace SpringAtlas

/-! ## Lines of code -/

/-- The lines that count as code, where a comment may be open in front of the first one. -/
def codeLines (inComment : Bool) (lines : List (List Char)) : List (List Char) :=
  ((lines.zip (lineKinds inComment lines)).filter fun e => e.2 == .code).map Prod.fst

/-- The packages that the code of a text declares. -/
def codePackages (text : List Char) : List String :=
  ((codeLines false (trimmedLines text)).filterMap declaredPackage?).map String.ofList

/-- A line inside of a block comment declares the package. -/
def CommentDeclares (text : List Char) (p : String) : Prop :=
  ∃ before line after, trimmedLines text = before ++ line :: after ∧ openBehind false before = true ∧
    declaredPackage? line = some p.toList

theorem codeLines_cons (inComment : Bool) (l : List Char) (ls : List (List Char)) :
    codeLines inComment (l :: ls) =
      if (lineKind inComment l).1 = .code then l :: codeLines (lineKind inComment l).2 ls
      else codeLines (lineKind inComment l).2 ls := by
  show (((l, (lineKind inComment l).1) :: ls.zip (lineKinds (lineKind inComment l).2 ls)).filter
    fun e => e.2 == .code).map Prod.fst = _
  rw [List.filter_cons]
  cases (lineKind inComment l).1 <;> rfl

theorem codeLines_sublist (inComment : Bool) (ls : List (List Char)) : (codeLines inComment ls).Sublist ls := by
  have hzip : (ls.zip (lineKinds inComment ls)).map Prod.fst = ls :=
    List.map_fst_zip (Nat.le_of_eq (length_lineKinds inComment ls).symm)
  have hkept := (List.filter_sublist (p := fun e => e.2 == LineKind.code)
    (l := ls.zip (lineKinds inComment ls))).map Prod.fst
  rwa [hzip] at hkept

/-! ## Lines that declare packages -/

/-- **A line that declares a package is code, unless a comment is open in front of it.** -/
theorem lineKind_of_declares {line name : List Char} (h : declaredPackage? line = some name) (inComment : Bool) :
    (lineKind inComment line).1 = if inComment then .comment else .code := by
  unfold declaredPackage? at h
  obtain ⟨hword, -⟩ := Option.ite_none_right_eq_some.1 h
  obtain ⟨rest, rfl⟩ := List.isPrefixOf_iff_prefix.1 hword
  cases inComment <;> rfl

section Lines

variable {inComment : Bool} {l name : List Char} {ls : List (List Char)}

/-- Behind the first line, a comment is open as the first line leaves it. -/
theorem exists_inComment_cons {P : List Char → Prop} :
    (∃ before line after, l :: ls = before ++ line :: after ∧ openBehind inComment before = true ∧ P line) ↔
      (inComment = true ∧ P l) ∨
      ∃ before line after, ls = before ++ line :: after ∧
        openBehind (lineKind inComment l).2 before = true ∧ P line := by
  constructor
  · rintro ⟨before, line, after, hls, hopen, hP⟩
    cases before with
    | nil =>
      obtain ⟨rfl, rfl⟩ := List.cons.inj hls
      exact Or.inl ⟨hopen, hP⟩
    | cons l' before =>
      obtain ⟨rfl, rfl⟩ := List.cons.inj hls
      exact Or.inr ⟨before, line, after, rfl, hopen, hP⟩
  · rintro (⟨hopen, hP⟩ | ⟨before, line, after, rfl, hopen, hP⟩)
    · exact ⟨[], l, ls, rfl, hopen, hP⟩
    · exact ⟨l :: before, line, after, rfl, hopen, hP⟩

theorem mem_filterMap_declared_iff : name ∈ ls.filterMap declaredPackage? ↔
    name ∈ (codeLines inComment ls).filterMap declaredPackage? ∨
    ∃ before line after, ls = before ++ line :: after ∧ openBehind inComment before = true ∧
      declaredPackage? line = some name := by
  induction ls generalizing inComment with
  | nil => simp [codeLines]
  | cons l ls ih =>
    rw [exists_inComment_cons, codeLines_cons]
    cases hl : declaredPackage? l with
    | none =>
      rw [List.filterMap_cons_none hl, @ih (lineKind inComment l).2]
      split
      · rw [List.filterMap_cons_none hl]
        simp
      · simp
    | some declared =>
      rw [List.filterMap_cons_some hl, List.mem_cons, @ih (lineKind inComment l).2, lineKind_of_declares hl]
      cases inComment with
      | false =>
        rw [if_neg Bool.false_ne_true, if_pos rfl, List.filterMap_cons_some hl, List.mem_cons]
        simp [or_assoc]
      | true =>
        rw [if_pos rfl, if_neg (by simp)]
        have hname : name = declared ↔ true = true ∧ some declared = some name := by
          rw [Option.some.injEq, eq_comm]
          exact (and_iff_right rfl).symm
        rw [hname]
        exact or_left_comm

/-- Leaving out the lines that are no code leaves out no package, if none of them is inside of a comment and declares
    one. -/
theorem filterMap_declared_eq_iff : ls.filterMap declaredPackage? = (codeLines inComment ls).filterMap declaredPackage? ↔
    ¬ ∃ before line after, ls = before ++ line :: after ∧ openBehind inComment before = true ∧
      declaredPackage? line ≠ none := by
  induction ls generalizing inComment with
  | nil => simp [codeLines]
  | cons l ls ih =>
    rw [exists_inComment_cons, codeLines_cons]
    cases hl : declaredPackage? l with
    | none =>
      rw [List.filterMap_cons_none hl]
      split
      · rw [List.filterMap_cons_none hl, @ih (lineKind inComment l).2]
        simp
      · rw [@ih (lineKind inComment l).2]
        simp
    | some declared =>
      rw [List.filterMap_cons_some hl, lineKind_of_declares hl]
      cases inComment with
      | false =>
        rw [if_neg Bool.false_ne_true, if_pos rfl, List.filterMap_cons_some hl, List.cons_inj_right,
          @ih (lineKind false l).2]
        simp
      | true =>
        rw [if_pos rfl, if_neg (by simp)]
        refine iff_of_false (fun he => ?_) (by simp)
        -- one package more than the lines of code can have
        have hlength := ((codeLines_sublist (lineKind true l).2 ls).filterMap declaredPackage?).length_le
        rw [← he, List.length_cons] at hlength
        omega

end Lines

/-! ## The packages of a text -/

theorem mem_packages_iff {text : List Char} {p : String} :
    p ∈ (countLines text).packages ↔ p ∈ codePackages text ∨ CommentDeclares text p := by
  have hofList (names : List (List Char)) : p ∈ names.map String.ofList ↔ p.toList ∈ names := by
    rw [List.mem_map]
    constructor
    · rintro ⟨name, hname, rfl⟩
      rwa [String.toList_ofList]
    · intro hname
      exact ⟨p.toList, hname, String.ofList_toList⟩
  show p ∈ ((trimmedLines text).filterMap declaredPackage?).map String.ofList ↔ _
  rw [hofList, mem_filterMap_declared_iff, codePackages, hofList]
  rfl

/-- **The packages of a text are those of its code** exactly if no comment declares any. -/
theorem packages_eq_iff {text : List Char} :
    (countLines text).packages = codePackages text ↔ ∀ p, ¬ CommentDeclares text p := by
  have hofList : Function.Injective (List.map String.ofList) := by
    apply List.map_injective_iff.2
    intro a b hab
    simpa using congrArg String.toList hab
  show ((trimmedLines text).filterMap declaredPackage?).map String.ofList = _ ↔ _
  rw [codePackages, hofList.eq_iff, filterMap_declared_eq_iff, ← not_exists]
  refine not_congr ⟨?_, ?_⟩
  · rintro ⟨before, line, after, hlines, hopen, hne⟩
    obtain ⟨name, hname⟩ := Option.ne_none_iff_exists'.1 hne
    exact ⟨String.ofList name, before, line, after, hlines, hopen, by rw [hname, String.toList_ofList]⟩
  · rintro ⟨p, before, line, after, hlines, hopen, hname⟩
    exact ⟨before, line, after, hlines, hopen, by simp [hname]⟩

/-! ## The packages of a corpus -/

/-- The packages that the code of the source files declares. -/
def packagesOfCode (c : Corpus) : List String :=
  c.javaFiles.flatMap fun f => codePackages f.chars

/-- The metrics describe the set of some packages. -/
structure CodeMetrics.DescribesPackages (m : CodeMetrics) (packages : List String) : Prop where
  total : m.totalPackages = packages.toFinset.card
  depth : m.maxPackageDepth = packages.toFinset.sup fun p => p.toList.count '.'
  tree : packageTree? packages = some m.packageStructure

theorem toFinset_distinct (packages : List String) : (Text.distinct packages).toFinset = packages.toFinset := by
  ext p
  rw [List.mem_toFinset, List.mem_toFinset, mem_distinct]

theorem foldl_max_map {α : Type} [DecidableEq α] (f : α → Nat) (xs : List α) (start : Nat) :
    (xs.map f).foldl max start = max start (xs.toFinset.sup f) := by
  induction xs generalizing start with
  | nil => simp
  | cons x xs ih => rw [List.map_cons, List.foldl_cons, ih, List.toFinset_cons, Finset.sup_insert, max_assoc]

/-- Packages have the tree of the set of them. -/
theorem packageTree?_eq_some_of_mem_iff {packages listed : List String} (hlisted : ∀ p, p ∈ listed ↔ p ∈ packages)
    {tree : String} (h : packageTree? packages = some tree) : packageTree? listed = some tree := by
  have hroots : ∀ p ∈ packages, isRootless p = false := by
    unfold packageTree? at h
    split at h
    · cases h
    · next hany => simpa using hany
  have hlists := listsPrefixes_orderedPrefixes packages
  rw [packageTree?_of_listsPrefixes hroots hlists] at h
  rw [← h]
  exact packageTree?_of_listsPrefixes (fun p hp => hroots p ((hlisted p).1 hp)) (hlists.of_mem_iff hlisted)

theorem fileMetrics_describesPackages {counts : List LineCounts} {m : CodeMetrics} (h : fileMetrics counts = .ok m) :
    m.DescribesPackages (counts.flatMap LineCounts.packages) := by
  unfold fileMetrics at h
  dsimp only at h
  split at h
  · cases h
  · next tree htree =>
    cases h
    refine ⟨?_, ?_, packageTree?_eq_some_of_mem_iff (fun p => mem_distinct.symm) htree⟩
    · show (Text.distinct _).length = _
      rw [← List.toFinset_card_of_nodup (nodup_distinct _), toFinset_distinct]
    · show ((Text.distinct _).map _).foldl max 0 = _
      rw [foldl_max_map, toFinset_distinct]
      exact Nat.zero_max _

/-- The facts of classes add nothing to what the metrics say about packages. -/
theorem withFacts_describesPackages {m m' : CodeMetrics} {facts : List ClassFact} {packages : List String}
    (h : m.withFacts facts = .ok m') (hm : m.DescribesPackages packages) : m'.DescribesPackages packages := by
  unfold CodeMetrics.withFacts at h
  split at h
  · cases h
    exact hm
  · obtain ⟨fields, -, h⟩ := bind_eq_ok.1 h
    obtain ⟨methods, -, h⟩ := bind_eq_ok.1 h
    cases h
    exact ⟨hm.total, hm.depth, hm.tree⟩

theorem codeMetrics_describesPackages {c : Corpus} {facts : List ClassFact} {m : CodeMetrics}
    (h : codeMetrics c facts = .ok m) : m.DescribesPackages (declaredPackages c) := by
  obtain ⟨m', hfiles, hfacts⟩ := bind_eq_ok.1 h
  have hdescribes := fileMetrics_describesPackages hfiles
  rw [List.flatMap_map] at hdescribes
  exact withFacts_describesPackages hfacts hdescribes

/-- Of a list of packages and a part of it, the metrics describe both only if the two have the same members. -/
theorem CodeMetrics.DescribesPackages.iff_subset {m : CodeMetrics} {packages part : List String}
    (h : m.DescribesPackages packages) (hpart : part ⊆ packages) : m.DescribesPackages part ↔ packages ⊆ part := by
  constructor
  · intro hdescribes p hp
    have hsubset : part.toFinset ⊆ packages.toFinset := by
      intro p hp
      exact List.mem_toFinset.2 (hpart (List.mem_toFinset.1 hp))
    have hcard : packages.toFinset.card ≤ part.toFinset.card := by rw [← h.total, ← hdescribes.total]
    rw [← List.mem_toFinset, Finset.eq_of_subset_of_card_le hsubset hcard, List.mem_toFinset]
    exact hp
  · intro hpackages
    have hmem : ∀ p, p ∈ part ↔ p ∈ packages := fun p => ⟨fun hp => hpart hp, fun hp => hpackages hp⟩
    have hset : part.toFinset = packages.toFinset := by
      ext p
      rw [List.mem_toFinset, List.mem_toFinset, hmem]
    exact ⟨by rw [hset, h.total], by rw [hset, h.depth], packageTree?_eq_some_of_mem_iff hmem h.tree⟩

/-- **Code declares the packages, and comments do too.** The packages of a text are those of its lines of code exactly if no
    line inside of a comment declares one. The metrics of a corpus describe the packages of its code exactly if code
    declares each package that a comment declares. -/
theorem packages_of_code_iff (text : List Char) (c : Corpus) (facts : List ClassFact) :
    ((countLines text).packages = codePackages text ↔ ∀ p, ¬ CommentDeclares text p) ∧
    ∀ m, codeMetrics c facts = .ok m →
      (m.DescribesPackages (packagesOfCode c) ↔
        ∀ f ∈ c.javaFiles, ∀ p, CommentDeclares f.chars p → p ∈ packagesOfCode c) := by
  refine ⟨packages_eq_iff, fun m hm => ?_⟩
  have hpart : packagesOfCode c ⊆ declaredPackages c := by
    intro p hp
    obtain ⟨f, hf, hp⟩ := List.mem_flatMap.1 hp
    exact List.mem_flatMap.2 ⟨f, hf, mem_packages_iff.2 (Or.inl hp)⟩
  rw [(codeMetrics_describesPackages hm).iff_subset hpart]
  constructor
  · intro hcode f hf p hp
    exact hcode (List.mem_flatMap.2 ⟨f, hf, mem_packages_iff.2 (Or.inr hp)⟩)
  · intro hcode p hp
    obtain ⟨f, hf, hp⟩ := List.mem_flatMap.1 hp
    rcases mem_packages_iff.1 hp with hp | hp
    · exact List.mem_flatMap.2 ⟨f, hf, hp⟩
    · exact hcode f hf p hp

/-- A package that code declares, and one inside of a comment. -/
def commentedFile : SourceFile where
  path := "A.java"
  text := "package a;\n/*\npackage b;\n*/\nclass A \x7b\x7d\n"

def commentedCorpus : Corpus where
  files := [commentedFile]
  descriptors := []

/-- The metrics count the package of the comment. -/
theorem packages_of_code_iff_commented :
    ∃ m, codeMetrics commentedCorpus [] = .ok m ∧ ¬ m.DescribesPackages (packagesOfCode commentedCorpus) := by
  obtain ⟨m, hfiles⟩ := (fileMetrics_eq_ok_iff [countLines commentedFile.chars]).2 (by decide +kernel)
  have hm : codeMetrics commentedCorpus [] = .ok m := bind_eq_ok.2 ⟨m, hfiles, rfl⟩
  have hcomment : CommentDeclares commentedFile.chars "b" :=
    ⟨["package a;".toList, "/*".toList], "package b;".toList, ["*/".toList, "class A \x7b\x7d".toList],
      by decide +kernel⟩
  have hfile : commentedFile ∈ commentedCorpus.javaFiles := List.mem_filter.2 ⟨List.mem_cons_self, by decide +kernel⟩
  have hcode : "b" ∉ packagesOfCode commentedCorpus := by decide +kernel
  refine ⟨m, hm, ?_⟩
  rw [(packages_of_code_iff commentedFile.chars commentedCorpus []).2 m hm]
  intro hall
  exact hcode (hall commentedFile hfile "b" hcomment)

/-- No line counts as code, and the line inside of the comment declares its package. -/
theorem comment_declares_package :
    "a" ∈ (countLines "/*\npackage a;\n*/\n".toList).packages ∧ (countLines "/*\npackage a;\n*/\n".toList).code = 0 := by
  decide +kernel

end SpringAtlas
