import Mathlib.Data.List.Induction
import Mathlib.Order.Bounds.Basic

/-!
# `Proofs.Source.Brackets` — angle brackets and their partners

In any text, balanced or not, each closing bracket is matched with the nearest opening bracket before it that is not matched
yet, if there is one. `IsMatching` says this of a set of pairs of offsets, and no two sets have the property: which brackets
are open at a place depends on the pairs that end before it (`openBefore_congr`).

`brackets` finds the pairs in one pass, with the open brackets on a stack. `Brackets.Reads` is what it knows about the text
behind it. One more character adds a pair if it closes a bracket, and that one stands on top of the stack
(`Brackets.Reads.concat`); so what the pass finds is the matching (`isMatching_iff`).

## Contents
* `OpenBefore`, `IsMatching` — matched pairs of brackets
* `Brackets`, `brackets` — the pairs found in one pass
* `Extends`, `IsMatching.concat`, `Brackets.Reads` — one more character
* `isMatching_iff` — the pass finds the matching
* `isEnclosed`, `unenclosed` — the characters outside of all pairs
-/

namespace SpringAtlas.Source

/-! ## Matchings -/

/-- In front of offset `j`, the opening bracket at `i` is not matched yet. -/
def OpenBefore (cs : List Char) (pairs : List (Nat × Nat)) (j i : Nat) : Prop :=
  i < j ∧ cs[i]? = some '<' ∧ ∀ k < j, (i, k) ∉ pairs

/-- Each closing bracket is matched with the nearest opening bracket before it that is not matched yet, if there is one. -/
def IsMatching (cs : List Char) (pairs : List (Nat × Nat)) : Prop :=
  ∀ i j, (i, j) ∈ pairs ↔ cs[j]? = some '>' ∧ IsGreatest {o | OpenBefore cs pairs j o} i

variable {cs : List Char} {c : Char} {pairs pairs' : List (Nat × Nat)} {i j : Nat}

theorem IsMatching.lt (h : IsMatching cs pairs) (hmem : (i, j) ∈ pairs) : i < j ∧ j < cs.length := by
  obtain ⟨hclose, ⟨hlt, -⟩, -⟩ := (h i j).1 hmem
  exact ⟨hlt, (List.getElem?_eq_some_iff.1 hclose).1⟩

/-- What is open at a place depends on what stands before it, and on the pairs that end before it. -/
theorem openBefore_congr {ds : List Char} (htext : ∀ i < j, cs[i]? = ds[i]?)
    (hpairs : ∀ i, ∀ k < j, (i, k) ∈ pairs ↔ (i, k) ∈ pairs') : OpenBefore cs pairs j i ↔ OpenBefore ds pairs' j i := by
  unfold OpenBefore
  refine and_congr_right fun hlt => ?_
  rw [htext i hlt]
  exact and_congr_right fun _ => forall₂_congr fun k hk => not_congr (hpairs i k hk)

/-- **A text has one matching.** By induction on the closing bracket, since pairs that end before it decide its partner. -/
theorem IsMatching.mem_iff (h : IsMatching cs pairs) (h' : IsMatching cs pairs') : (i, j) ∈ pairs ↔ (i, j) ∈ pairs' := by
  induction j using Nat.strongRecOn generalizing i with
  | ind j ih =>
    have hset : {o | OpenBefore cs pairs j o} = {o | OpenBefore cs pairs' j o} :=
      Set.ext fun o => openBefore_congr (fun _ _ => rfl) fun i k hk => ih k hk
    rw [h i j, h' i j, hset]

/-- What a matching is depends on its pairs only. -/
theorem IsMatching.congr (h : IsMatching cs pairs) (hpairs : ∀ i j, (i, j) ∈ pairs' ↔ (i, j) ∈ pairs) :
    IsMatching cs pairs' := by
  intro i j
  have hset : {o | OpenBefore cs pairs' j o} = {o | OpenBefore cs pairs j o} :=
    Set.ext fun o => openBefore_congr (fun _ _ => rfl) fun i k _ => hpairs i k
  rw [hpairs, hset]
  exact h i j

/-! ## One pass -/

/-- The angle brackets of a text, by their offsets: those that are open at its end, the nearest first, and the matched
    pairs. -/
structure Brackets where
  opened : List Nat
  pairs : List (Nat × Nat)

/-- One more character, with its offset. A closing bracket is matched with the first open one. -/
def Brackets.read (b : Brackets) (x : Char × Nat) : Brackets :=
  if x.1 = '<' then { b with opened := x.2 :: b.opened }
  else if x.1 = '>' then
    match b.opened with
    | [] => b
    | o :: opened => ⟨opened, (o, x.2) :: b.pairs⟩
  else b

/-- The brackets of a text, read in one pass. -/
def brackets (cs : List Char) : Brackets :=
  cs.zipIdx.foldl Brackets.read ⟨[], []⟩

/-- A text is read character by character, from the front. -/
theorem brackets_concat (cs : List Char) (c : Char) : brackets (cs ++ [c]) = (brackets cs).read (c, cs.length) := by
  unfold brackets
  rw [List.zipIdx_append, List.foldl_append, Nat.zero_add]
  rfl

/-- What one character does: it opens a bracket, closes the nearest open one, or changes nothing. -/
theorem Brackets.read_cases (b : Brackets) (c : Char) (n : Nat) :
    (c = '<' ∧ b.read (c, n) = ⟨n :: b.opened, b.pairs⟩) ∨
    (∃ o opened, c = '>' ∧ b.opened = o :: opened ∧ b.read (c, n) = ⟨opened, (o, n) :: b.pairs⟩) ∨
    (c ≠ '<' ∧ (c = '>' → b.opened = []) ∧ b.read (c, n) = b) := by
  obtain ⟨opened, pairs⟩ := b
  by_cases hopen : c = '<'
  · exact Or.inl ⟨hopen, if_pos hopen⟩
  · right
    by_cases hclose : c = '>'
    · subst hclose
      cases opened with
      | nil => exact Or.inr ⟨hopen, fun _ => rfl, rfl⟩
      | cons o opened => exact Or.inl ⟨o, opened, rfl, rfl, rfl⟩
    · refine Or.inr ⟨hopen, fun h => absurd h hclose, ?_⟩
      unfold read
      rw [if_neg hopen, if_neg hclose]

/-! ## One more character -/

/-- The pairs of a text, and those of the text with one more character, which adds a pair if it closes a bracket. -/
def Extends (cs : List Char) (c : Char) (pairs pairs' : List (Nat × Nat)) : Prop :=
  ∀ i j, (i, j) ∈ pairs' ↔
    (i, j) ∈ pairs ∨ j = cs.length ∧ c = '>' ∧ IsGreatest {o | OpenBefore cs pairs cs.length o} i

theorem Extends.mem_iff_of_lt (h : Extends cs c pairs pairs') (hj : j < cs.length) :
    (i, j) ∈ pairs ↔ (i, j) ∈ pairs' := by
  rw [h]
  refine ⟨Or.inl, fun hmem => hmem.resolve_right fun hlast => ?_⟩
  exact absurd hlast.1 (Nat.ne_of_lt hj)

theorem Extends.openBefore_iff (h : Extends cs c pairs pairs') (hj : j ≤ cs.length) :
    OpenBefore cs pairs j i ↔ OpenBefore (cs ++ [c]) pairs' j i := by
  apply openBefore_congr
  · intro i hi
    exact (List.getElem?_append_left (Nat.lt_of_lt_of_le hi hj)).symm
  · intro i k hk
    exact h.mem_iff_of_lt (Nat.lt_of_lt_of_le hk hj)

/-- **The matching of a text goes on to the text with one more character.** -/
theorem IsMatching.concat (hmatching : IsMatching cs pairs) (h : Extends cs c pairs pairs') :
    IsMatching (cs ++ [c]) pairs' := by
  intro i j
  have hset (hj : j ≤ cs.length) : {o | OpenBefore (cs ++ [c]) pairs' j o} = {o | OpenBefore cs pairs j o} :=
    Set.ext fun o => (h.openBefore_iff hj).symm
  rcases Nat.lt_trichotomy j cs.length with hlt | rfl | hgt
  · rw [← h.mem_iff_of_lt hlt, hset (Nat.le_of_lt hlt), List.getElem?_append_left hlt]
    exact hmatching i j
  · have hnone : (i, cs.length) ∉ pairs := fun hmem => Nat.lt_irrefl _ (hmatching.lt hmem).2
    rw [h, hset (Nat.le_refl _), List.getElem?_concat_length, Option.some_inj]
    simp [hnone]
  · have hnone : (i, j) ∉ pairs := fun hmem => Nat.lt_asymm hgt (hmatching.lt hmem).2
    have hend : (cs ++ [c])[j]? = none := by
      apply List.getElem?_eq_none
      rw [List.length_append]
      exact hgt
    rw [h, hend]
    simp [hnone, Nat.ne_of_gt hgt]

/-- What is open at the end: what was open before the last character, or that one, unless it has just been matched. -/
theorem Extends.openBefore_concat (hmatching : IsMatching cs pairs) (h : Extends cs c pairs pairs') :
    OpenBefore (cs ++ [c]) pairs' (cs ++ [c]).length i ↔
      (OpenBefore cs pairs cs.length i ∨ i = cs.length ∧ c = '<') ∧ (i, cs.length) ∉ pairs' := by
  have hlength : (cs ++ [c]).length = cs.length + 1 := List.length_append
  rw [h.openBefore_iff (Nat.le_refl _), hlength]
  unfold OpenBefore
  rw [Nat.forall_lt_succ_right, Nat.lt_succ_iff_lt_or_eq]
  constructor
  · rintro ⟨hlt | rfl, hopen, hbefore, hnow⟩
    · exact ⟨Or.inl ⟨hlt, hopen, hbefore⟩, hnow⟩
    · rw [List.getElem?_concat_length] at hopen
      exact ⟨Or.inr ⟨rfl, Option.some.inj hopen⟩, hnow⟩
  · rintro ⟨⟨hlt, hopen, hbefore⟩ | ⟨rfl, rfl⟩, hnow⟩
    · exact ⟨Or.inl hlt, hopen, hbefore, hnow⟩
    · refine ⟨Or.inr rfl, List.getElem?_concat_length, fun k hk hmem => ?_, hnow⟩
      -- a pair would have to end behind its opening bracket
      exact Nat.lt_asymm hk (hmatching.lt ((h.mem_iff_of_lt hk).2 hmem)).1

/-! ## Characters outside of all pairs -/

/-- The offset lies between two matched brackets or is that of one of them. -/
def isEnclosed (pairs : List (Nat × Nat)) (k : Nat) : Bool :=
  pairs.any fun p => decide (p.1 ≤ k ∧ k ≤ p.2)

/-- Of some characters with their offsets, those that no pair encloses. -/
def unenclosed (pairs : List (Nat × Nat)) (xs : List (Char × Nat)) : List Char :=
  (xs.filter fun x => !isEnclosed pairs x.2).map Prod.fst

theorem isEnclosed_iff {k : Nat} : isEnclosed pairs k ↔ ∃ i j, (i, j) ∈ pairs ∧ i ≤ k ∧ k ≤ j := by
  simp [isEnclosed]

theorem isEnclosed_cons (i j : Nat) (pairs : List (Nat × Nat)) (k : Nat) :
    isEnclosed ((i, j) :: pairs) k = (decide (i ≤ k ∧ k ≤ j) || isEnclosed pairs k) :=
  rfl

/-- No pair of a text encloses the offset at its end. -/
theorem IsMatching.isEnclosed_length (h : IsMatching cs pairs) : isEnclosed pairs cs.length = false := by
  refine Bool.eq_false_iff.2 fun henclosed => ?_
  obtain ⟨i, j, hmem, -, hle⟩ := isEnclosed_iff.1 henclosed
  exact absurd (h.lt hmem).2 (Nat.not_lt.2 hle)

/-- The characters that stay are those at offsets that no pair encloses. -/
theorem mem_unenclosed {xs : List (Char × Nat)} :
    c ∈ unenclosed pairs xs ↔ ∃ i, (c, i) ∈ xs ∧ isEnclosed pairs i = false := by
  simp [unenclosed]

theorem unenclosed_append (pairs : List (Nat × Nat)) (xs ys : List (Char × Nat)) :
    unenclosed pairs (xs ++ ys) = unenclosed pairs xs ++ unenclosed pairs ys := by
  unfold unenclosed
  rw [List.filter_append, List.map_append]

/-- A character at the end stays if no pair encloses its offset. -/
theorem unenclosed_concat (h : isEnclosed pairs cs.length = false) (c : Char) :
    unenclosed pairs (cs ++ [c]).zipIdx = unenclosed pairs cs.zipIdx ++ [c] := by
  rw [List.zipIdx_append, unenclosed_append, Nat.zero_add]
  congr 1
  simp [unenclosed, h]

/-- A character that no pair encloses splits what is outside. -/
theorem unenclosed_split {xs : List Char} (h : isEnclosed pairs xs.length = false) (c : Char) (ys : List Char) :
    unenclosed pairs (xs ++ c :: ys).zipIdx =
      unenclosed pairs xs.zipIdx ++ c :: unenclosed pairs (ys.zipIdx (xs.length + 1)) := by
  rw [List.zipIdx_append, unenclosed_append, Nat.zero_add]
  congr 1
  simp [unenclosed, h]

/-- Two brackets that are matched now enclose all that stands behind the opening one. -/
theorem unenclosed_close (pairs : List (Nat × Nat)) (xs ys : List Char) :
    unenclosed ((xs.length, (xs ++ ys).length) :: pairs) (xs ++ ys ++ ['>']).zipIdx = unenclosed pairs xs.zipIdx := by
  have hbefore : unenclosed ((xs.length, (xs ++ ys).length) :: pairs) xs.zipIdx = unenclosed pairs xs.zipIdx := by
    unfold unenclosed
    congr 1
    refine List.filter_congr fun x hx => ?_
    have hlt : x.2 < xs.length := List.snd_lt_of_mem_zipIdx hx
    rw [isEnclosed_cons, decide_eq_false fun hle => Nat.not_le.2 hlt hle.1, Bool.false_or]
  have hinside : unenclosed ((xs.length, (xs ++ ys).length) :: pairs) ((ys ++ ['>']).zipIdx xs.length) = [] := by
    unfold unenclosed
    rw [List.map_eq_nil_iff, List.filter_eq_nil_iff]
    intro x hx
    have hle := List.le_snd_of_mem_zipIdx hx
    have hlt := List.snd_lt_add_of_mem_zipIdx hx
    have hbetween : xs.length ≤ x.2 ∧ x.2 ≤ (xs ++ ys).length := by
      simp only [List.length_append, List.length_singleton] at hlt ⊢
      omega
    rw [isEnclosed_cons, decide_eq_true hbetween]
    simp
  rw [List.append_assoc, List.zipIdx_append, unenclosed_append, hbefore, Nat.zero_add, hinside, List.append_nil]

/-! ## The pass finds the matching -/

namespace Brackets

variable {b : Brackets} {o : Nat} {opened : List Nat}

/-- What the pass knows about the text that it has read. -/
structure Reads (cs : List Char) (b : Brackets) : Prop where
  matching : IsMatching cs b.pairs
  mem_opened_iff : ∀ i, i ∈ b.opened ↔ OpenBefore cs b.pairs cs.length i
  nearest_first : b.opened.Pairwise (· > ·)
  not_enclosed : ∀ i ∈ b.opened, isEnclosed b.pairs i = false

theorem reads_nil : Reads [] ⟨[], []⟩ where
  matching i j := by simp
  mem_opened_iff i := by simp [OpenBefore]
  nearest_first := .nil
  not_enclosed i hi := absurd hi List.not_mem_nil

namespace Reads

variable (h : b.Reads cs)

include h

theorem lt_of_mem_opened (hi : i ∈ b.opened) : i < cs.length :=
  ((h.mem_opened_iff i).1 hi).1

theorem length_not_mem (i : Nat) : (i, cs.length) ∉ b.pairs :=
  fun hmem => Nat.lt_irrefl _ (h.matching.lt hmem).2

/-- An opening bracket that no pair encloses is open. -/
theorem mem_opened (hopen : cs[i]? = some '<') (houtside : isEnclosed b.pairs i = false) : i ∈ b.opened := by
  refine (h.mem_opened_iff i).2 ⟨(List.getElem?_eq_some_iff.1 hopen).1, hopen, fun k _ hmem => ?_⟩
  have henclosed : isEnclosed b.pairs i :=
    isEnclosed_iff.2 ⟨i, k, hmem, Nat.le_refl i, Nat.le_of_lt (h.matching.lt hmem).1⟩
  rw [houtside] at henclosed
  cases henclosed

/-- The other open brackets stand before the nearest one. -/
theorem lt_of_mem_tail (hopened : b.opened = o :: opened) (hi : i ∈ opened) : i < o := by
  have hfirst := h.nearest_first
  rw [hopened] at hfirst
  exact List.rel_of_pairwise_cons hfirst hi

/-- The nearest open bracket stands on top. -/
theorem isGreatest (hopened : b.opened = o :: opened) : IsGreatest {o | OpenBefore cs b.pairs cs.length o} o := by
  refine ⟨(h.mem_opened_iff o).1 (hopened ▸ List.mem_cons_self), fun i hi => ?_⟩
  have hmem := (h.mem_opened_iff i).2 hi
  rw [hopened] at hmem
  rcases List.mem_cons.1 hmem with rfl | hmem
  · exact Nat.le_refl _
  · exact Nat.le_of_lt (h.lt_of_mem_tail hopened hmem)

/-- Without a bracket to close, no pair is added. -/
theorem extends_self (hclose : c = '>' → b.opened = []) : Extends cs c b.pairs b.pairs := by
  intro i j
  refine ⟨Or.inl, fun hmem => hmem.resolve_right ?_⟩
  rintro ⟨-, hc, hopen, -⟩
  have hi := (h.mem_opened_iff i).2 hopen
  rw [hclose hc] at hi
  exact List.not_mem_nil hi

theorem extends_close (hopened : b.opened = o :: opened) : Extends cs '>' b.pairs ((o, cs.length) :: b.pairs) := by
  have hgreatest := h.isGreatest hopened
  intro i j
  rw [List.mem_cons, Prod.mk.injEq, or_comm]
  refine or_congr_right ⟨?_, ?_⟩
  · rintro ⟨rfl, rfl⟩
    exact ⟨rfl, rfl, hgreatest⟩
  · rintro ⟨rfl, -, hi⟩
    exact ⟨hi.unique hgreatest, rfl⟩

theorem concat_open : Reads (cs ++ ['<']) ⟨cs.length :: b.opened, b.pairs⟩ := by
  have hextends : Extends cs '<' b.pairs b.pairs := h.extends_self fun hc => absurd hc (by decide)
  refine ⟨h.matching.concat hextends, fun i => ?_, ?_, fun i hi => ?_⟩
  · rw [hextends.openBefore_concat h.matching, ← h.mem_opened_iff]
    simp [h.length_not_mem, or_comm]
  · exact List.pairwise_cons.2 ⟨fun i hi => h.lt_of_mem_opened hi, h.nearest_first⟩
  · rcases List.mem_cons.1 hi with rfl | hi
    · exact h.matching.isEnclosed_length
    · exact h.not_enclosed i hi

theorem concat_close (hopened : b.opened = o :: opened) :
    Reads (cs ++ ['>']) ⟨opened, (o, cs.length) :: b.pairs⟩ := by
  have hextends := h.extends_close hopened
  refine ⟨h.matching.concat hextends, fun i => ?_, ?_, fun i hi => ?_⟩
  · rw [hextends.openBefore_concat h.matching, ← h.mem_opened_iff, hopened]
    constructor
    · intro hi
      refine ⟨Or.inl (List.mem_cons_of_mem o hi), fun hmem => ?_⟩
      rcases List.mem_cons.1 hmem with heq | hmem
      · exact Nat.ne_of_lt (h.lt_of_mem_tail hopened hi) (Prod.mk.inj heq).1
      · exact h.length_not_mem i hmem
    · rintro ⟨hi | ⟨-, hc⟩, hnow⟩
      · refine (List.mem_cons.1 hi).resolve_left ?_
        rintro rfl
        exact hnow List.mem_cons_self
      · exact absurd hc (by decide)
  · have hfirst := h.nearest_first
    rw [hopened] at hfirst
    exact hfirst.of_cons
  · have hlt := h.lt_of_mem_tail hopened hi
    rw [isEnclosed_cons, h.not_enclosed i (hopened ▸ List.mem_cons_of_mem o hi), Bool.or_false]
    exact decide_eq_false fun hle => Nat.not_le.2 hlt hle.1

theorem concat_other (hopen : c ≠ '<') (hclose : c = '>' → b.opened = []) : Reads (cs ++ [c]) b := by
  have hextends := h.extends_self hclose
  refine ⟨h.matching.concat hextends, fun i => ?_, h.nearest_first, h.not_enclosed⟩
  rw [hextends.openBefore_concat h.matching, ← h.mem_opened_iff]
  simp [h.length_not_mem, hopen]

theorem concat (c : Char) : (b.read (c, cs.length)).Reads (cs ++ [c]) := by
  rcases b.read_cases c cs.length with ⟨rfl, hread⟩ | ⟨o, opened, rfl, hopened, hread⟩ | ⟨hopen, hclose, hread⟩
  · rw [hread]
    exact h.concat_open
  · rw [hread]
    exact h.concat_close hopened
  · rw [hread]
    exact h.concat_other hopen hclose

end Reads

/-- **What the pass knows holds of every text**, however many characters it has read. -/
theorem reads_brackets (cs : List Char) : (brackets cs).Reads cs := by
  induction cs using List.reverseRecOn with
  | nil => exact reads_nil
  | append_singleton cs c ih =>
    rw [brackets_concat]
    exact ih.concat c

end Brackets

/-- **The pairs found in one pass are the matching.** -/
theorem isMatching_iff : IsMatching cs pairs ↔ ∀ i j, (i, j) ∈ pairs ↔ (i, j) ∈ (brackets cs).pairs := by
  have hpass := (Brackets.reads_brackets cs).matching
  constructor
  · intro h i j
    exact h.mem_iff hpass
  · intro h
    exact hpass.congr h

end SpringAtlas.Source
