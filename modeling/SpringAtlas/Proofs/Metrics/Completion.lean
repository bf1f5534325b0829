import SpringAtlas.Metrics.Basic
import SpringAtlas.Proofs.Decimal.Size
import SpringAtlas.Proofs.Metrics.Packages
import SpringAtlas.Proofs.Outcome

/-!
# `Proofs.Metrics.Completion` — when a corpus has metrics

Two things can keep a corpus from having metrics: a tree of packages that cannot be drawn, and a mean that cannot be
rounded. Means of counts that a program could have are always rounded, so it comes down to the packages, and there to a
single rule: the metrics exist exactly if no line declares a package whose name starts with a dot. Such a line need not
be a declaration; a line of a comment that starts with the word counts as well.

## Contents
* `mean_eq_ok`, `withFacts_eq_ok` — means of moderate counts
* `declaredPackages`, `isRootless_iff` — the packages that lines name
* `codeMetrics_returns_iff` — when there are metrics, and a corpus without
-/

namespace SpringAtlas

/-! ## Means -/

theorem roundHalfUp_le_value {r : Nat × Nat} (h : 0 < r.2) : (roundHalfUp r.1 r.2 : ℚ) ≤ ratioValue r + 1 / 2 := by
  have hpos : (0 : ℚ) < r.2 := by exact_mod_cast h
  have hmul : roundHalfUp r.1 r.2 * (2 * r.2) ≤ 2 * r.1 + r.2 := Nat.div_mul_le_self _ _
  have hmul' : (roundHalfUp r.1 r.2 : ℚ) * (2 * r.2) ≤ 2 * r.1 + r.2 := by exact_mod_cast hmul
  rw [ratioValue, ← sub_le_iff_le_add, le_div_iff₀ hpos]
  linarith

/-- Rounded to two places, a double of moderate size has few digits. -/
theorem isRoundable_of_le (negative : Bool) {m : Nat} {e : Int} (h : (m : ℚ) * 2 ^ e ≤ 2 * sizeLimit) :
    isRoundable (.finite negative m e) = true := by
  cases m with
  | zero => rfl
  | succ m =>
    have hdigits : (shortest (m + 1) e).value ≤ 2 * (2 * sizeLimit) := by
      have hle := shortest_le (Nat.succ_pos m) e
      linarith
    have hround : (roundHalfUp ((shortest (m + 1) e).ratio.1 * 100) (shortest (m + 1) e).ratio.2 : ℚ) ≤
        ratioValue ((shortest (m + 1) e).ratio.1 * 100, (shortest (m + 1) e).ratio.2) + 1 / 2 :=
      roundHalfUp_le_value (ratio_den_pos _)
    have hvalue : ratioValue ((shortest (m + 1) e).ratio.1 * 100, (shortest (m + 1) e).ratio.2) =
        100 * (shortest (m + 1) e).value := by
      rw [← ratio_value, ratioValue, ratioValue]
      push_cast
      ring
    have hlimit : (sizeLimit : ℚ) = 10 ^ 25 := by
      rw [sizeLimit, Nat.pow_eq]
      norm_num
    have hlt : (roundHalfUp ((shortest (m + 1) e).ratio.1 * 100) (shortest (m + 1) e).ratio.2 : ℚ) <
        ((Nat.pow 10 28 : Nat) : ℚ) := by
      rw [Nat.pow_eq]
      push_cast
      rw [hvalue] at hround
      rw [hlimit] at hdigits
      linarith
    have hlt' : roundHalfUp ((shortest (m + 1) e).ratio.1 * 100) (shortest (m + 1) e).ratio.2 < Nat.pow 10 28 := by
      exact_mod_cast hlt
    unfold isRoundable
    exact decide_eq_true hlt'

theorem mean_eq_ok {num : Int} {den : Nat} (hden : 0 < den) (hle : num.natAbs ≤ sizeLimit * den) :
    ∃ x, mean num den = .ok x := by
  generalize hnegative : (decide (num < 0) != decide ((den : Int) < 0)) = negative
  obtain ⟨m, e, hdouble, hvalue⟩ := ofRatio_finite negative hden hle
  have hquotient : (num.natAbs : ℚ) / den ≤ sizeLimit := by
    have hpos : (0 : ℚ) < den := by exact_mod_cast hden
    rw [div_le_iff₀ hpos]
    exact_mod_cast hle
  have hround : isRoundable (.finite negative m e) :=
    isRoundable_of_le negative (le_trans hvalue (mul_le_mul_of_nonneg_left hquotient zero_le_two))
  have hratio : Double.ofRatioInt num den = .finite negative m e := by
    rw [Double.ofRatioInt, hnegative]
    exact hdouble
  have hne : (den : Int) ≠ 0 := by exact_mod_cast hden.ne'
  rw [mean, if_neg hne, hratio]
  exact ⟨_, if_pos hround⟩

theorem natAbs_foldl_add_le {limit : Nat} {counts : List Int} (h : ∀ n ∈ counts, n.natAbs ≤ limit) (start : Int) :
    (counts.foldl (· + ·) start).natAbs ≤ start.natAbs + limit * counts.length := by
  induction counts generalizing start with
  | nil => simp
  | cons n counts ih =>
    have hn := h n (by simp)
    have hrest := ih (fun k hk => h k (List.mem_cons_of_mem _ hk)) (start + n)
    rw [List.foldl_cons, List.length_cons, Nat.mul_add, Nat.mul_one]
    omega

/-- **Facts with moderate counts have means.** -/
theorem withFacts_eq_ok (metrics : CodeMetrics) {facts : List ClassFact}
    (hcounts : ∀ f ∈ facts, f.fieldCount.natAbs ≤ sizeLimit ∧ f.methodCount.natAbs ≤ sizeLimit) :
    ∃ m, metrics.withFacts facts = .ok m := by
  unfold CodeMetrics.withFacts
  split
  · exact ⟨metrics, rfl⟩
  · next hne =>
    have hlen : 0 < facts.length := by
      rw [List.length_pos_iff]
      simpa using hne
    have hmean {count : ClassFact → Int} (hcount : ∀ f ∈ facts, (count f).natAbs ≤ sizeLimit) :
        ∃ x, mean ((facts.map count).foldl (· + ·) 0) (facts.map count).length = .ok x := by
      have hcounts : ∀ n ∈ facts.map count, n.natAbs ≤ sizeLimit := by
        intro n hn
        obtain ⟨f, hf, rfl⟩ := List.mem_map.1 hn
        exact hcount f hf
      exact mean_eq_ok (by simpa using hlen) (by simpa using natAbs_foldl_add_le hcounts 0)
    obtain ⟨x, hx⟩ := hmean fun f hf => (hcounts f hf).1
    obtain ⟨y, hy⟩ := hmean fun f hf => (hcounts f hf).2
    exact ⟨_, bind_eq_ok.2 ⟨x, hx, bind_eq_ok.2 ⟨y, hy, rfl⟩⟩⟩

/-! ## Packages -/

/-- The packages that the lines of the source files name. -/
def declaredPackages (c : Corpus) : List String :=
  c.javaFiles.flatMap fun f => (countLines f.chars).packages

theorem declaredPackage?_ne_nil {line name : List Char} (h : declaredPackage? line = some name) : name ≠ [] := by
  unfold declaredPackage? at h
  split at h
  · dsimp only at h
    split at h
    · cases h
    · next hne =>
      cases h
      simpa using hne
  · cases h

theorem ne_empty_of_mem_declaredPackages {c : Corpus} {p : String} (h : p ∈ declaredPackages c) : p ≠ "" := by
  obtain ⟨f, -, hp⟩ := List.mem_flatMap.1 h
  obtain ⟨name, hname, rfl⟩ := List.mem_map.1 hp
  obtain ⟨line, -, hline⟩ := List.mem_filterMap.1 hname
  intro he
  exact declaredPackage?_ne_nil hline (by simpa using congrArg String.toList he)

/-- A package without a root starts with a dot. -/
theorem isRootless_iff {name : String} (hne : name ≠ "") : isRootless name ↔ name.toList.head? = some '.' := by
  have hchars : name.toList ≠ [] := mt String.toList_eq_nil_iff.1 hne
  rw [isRootless, packageSegments, beq_iff_eq]
  cases hname : name.toList with
  | nil => exact absurd hname hchars
  | cons c cs =>
    rw [Text.splitWhere]
    by_cases hc : c = '.'
    · simp [hc]
    · obtain ⟨w, ws, hw⟩ := List.exists_cons_of_ne_nil (Text.splitWhere_ne_nil (· == '.') cs)
      simp [hc, hw, Text.consHead]

theorem declaredPackages_isRootless_iff (c : Corpus) :
    (∀ p ∈ declaredPackages c, isRootless p = false) ↔ ∀ p ∈ declaredPackages c, p.toList.head? ≠ some '.' := by
  refine forall₂_congr fun p hp => ?_
  rw [← Bool.not_eq_true, isRootless_iff (ne_empty_of_mem_declaredPackages hp)]

/-- The metrics of files have an end unless a declared package is rootless. -/
theorem fileMetrics_eq_ok_iff (counts : List LineCounts) :
    (∃ m, fileMetrics counts = .ok m) ↔ ∀ p ∈ counts.flatMap LineCounts.packages, isRootless p = false := by
  unfold fileMetrics packageTree?
  dsimp only
  by_cases hany : (Text.distinct (counts.flatMap LineCounts.packages)).any isRootless
  · obtain ⟨p, hp, hroot⟩ := List.any_eq_true.1 hany
    rw [if_pos hany]
    refine iff_of_false (by rintro ⟨m, hm⟩; cases hm) fun hall => ?_
    rw [hall p (mem_distinct.1 hp)] at hroot
    cases hroot
  · rw [if_neg hany]
    refine iff_of_true ⟨_, rfl⟩ fun p hp => ?_
    by_contra hroot
    exact hany (List.any_eq_true.2 ⟨p, mem_distinct.2 hp, by simpa using hroot⟩)

/-! ## Metrics -/

/-- **A corpus has metrics exactly if drawing its packages ends**, which it does exactly if no line names a package that
    starts with a dot. The counts of the facts may be anything up to `sizeLimit`. -/
theorem codeMetrics_returns_iff (c : Corpus) {facts : List ClassFact}
    (hcounts : ∀ f ∈ facts, f.fieldCount.natAbs ≤ sizeLimit ∧ f.methodCount.natAbs ≤ sizeLimit) :
    ((∃ m, codeMetrics c facts = .ok m) ↔ DrawingEnds (declaredPackages c)) ∧
    (DrawingEnds (declaredPackages c) ↔ ∀ p ∈ declaredPackages c, p.toList.head? ≠ some '.') := by
  have hfiles := fileMetrics_eq_ok_iff (c.javaFiles.map fun f => countLines f.chars)
  rw [List.flatMap_map] at hfiles
  have hmetrics : (∃ m, codeMetrics c facts = .ok m) ↔
      ∃ m, fileMetrics (c.javaFiles.map fun f => countLines f.chars) = .ok m := by
    constructor
    · rintro ⟨m, hm⟩
      obtain ⟨m', hm', -⟩ := bind_eq_ok.1 hm
      exact ⟨m', hm'⟩
    · rintro ⟨m, hm⟩
      obtain ⟨m', hm'⟩ := withFacts_eq_ok m hcounts
      exact ⟨m', bind_eq_ok.2 ⟨m, hm, hm'⟩⟩
  refine ⟨?_, ?_⟩
  · rw [hmetrics, drawingEnds_iff]
    exact hfiles
  · rw [drawingEnds_iff, declaredPackages_isRootless_iff]

/-- One file, whose line names the package. -/
def packageCorpus (name : String) : Corpus where
  files := [⟨"A.java", "package " ++ name ++ ";\nclass A \x7b\x7d\n"⟩]
  descriptors := []

theorem codeMetrics_returns_iff_rooted :
    (∀ f ∈ [({ name := "A", fieldCount := 3, methodCount := 7 } : ClassFact)],
      f.fieldCount.natAbs ≤ sizeLimit ∧ f.methodCount.natAbs ≤ sizeLimit) ∧
    ∃ m, codeMetrics (packageCorpus "a..b") [{ name := "A", fieldCount := 3, methodCount := 7 }] = .ok m := by
  have hcounts : ∀ f ∈ [({ name := "A", fieldCount := 3, methodCount := 7 } : ClassFact)],
      f.fieldCount.natAbs ≤ sizeLimit ∧ f.methodCount.natAbs ≤ sizeLimit := by decide
  have hreturns := codeMetrics_returns_iff (packageCorpus "a..b") hcounts
  exact ⟨hcounts, hreturns.1.2 (hreturns.2.2 (by decide +kernel))⟩

/-- A package that starts with a dot keeps its corpus from having metrics. -/
theorem not_codeMetrics_rootless : ¬ ∃ m, codeMetrics (packageCorpus ".a") [] = .ok m := by
  rintro ⟨m, hm⟩
  have herror : codeMetrics (packageCorpus ".a") [] = .error .endlessTree := by rfl
  rw [herror] at hm
  cases hm

end SpringAtlas
