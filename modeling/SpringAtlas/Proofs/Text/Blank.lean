import SpringAtlas.Text.Blank
import SpringAtlas.Text.Letter

/-!
# `Proofs.Text.Blank` — blanks and what is left between them

A text with a first and a last character that stay is what trimming gives back, however many characters that go stand
around it. Blanks are no part of words.

## Contents
* `dropWhile_of_head?`, `dropEndWhile_of_getLast?`, `dropEndWhile_append` — the ends of a text
* `trimWhere_of_forall`, `mem_trimWhere`, `trimWhere_padded`, `AllBlank`, `trim_padded` — what stands between blanks
* `not_isWord_of_isBlank` — blanks and words
-/

namespace SpringAtlas

namespace Text

variable {p : Char → Bool} {cs : List Char}

/-! ## Trimming -/

/-- A text without characters of a class does not start with one. -/
theorem head?_any_of_forall (h : ∀ c ∈ cs, p c = false) : cs.head?.any p = false := by
  cases cs with
  | nil => rfl
  | cons c cs => exact h c List.mem_cons_self

/-- A text without characters of a class does not end with one. -/
theorem getLast?_any_of_forall (h : ∀ c ∈ cs, p c = false) : cs.getLast?.any p = false := by
  rw [← List.head?_reverse]
  exact head?_any_of_forall fun c hc => h c (List.mem_reverse.1 hc)

/-- Nothing is dropped in front of a character that stays. -/
theorem dropWhile_of_head? (h : cs.head?.any p = false) : cs.dropWhile p = cs := by
  cases cs with
  | nil => rfl
  | cons c cs =>
    rw [List.head?_cons, Option.any_some] at h
    exact List.dropWhile_cons_of_neg (by simp [h])

/-- Nothing is dropped behind a character that stays. -/
theorem dropEndWhile_of_getLast? (h : cs.getLast?.any p = false) : dropEndWhile p cs = cs := by
  rw [← List.head?_reverse] at h
  rw [dropEndWhile, dropWhile_of_head? h, List.reverse_reverse]

/-- Nothing is trimmed from a text without characters of the class. -/
theorem trimWhere_of_forall (h : ∀ c ∈ cs, p c = false) : trimWhere p cs = cs := by
  rw [trimWhere, dropWhile_of_head? (head?_any_of_forall h), dropEndWhile_of_getLast? (getLast?_any_of_forall h)]

/-- What is dropped at the end of two texts reaches the first one only if nothing is left of the second. -/
theorem dropEndWhile_append (p : Char → Bool) (xs ys : List Char) :
    dropEndWhile p (xs ++ ys) = if dropEndWhile p ys = [] then dropEndWhile p xs else xs ++ dropEndWhile p ys := by
  simp only [dropEndWhile, List.reverse_append, List.dropWhile_append, List.isEmpty_iff, List.reverse_eq_nil_iff]
  split
  · rfl
  · rw [List.reverse_append, List.reverse_reverse]

theorem dropEndWhile_of_forall (h : ∀ c ∈ cs, p c) : dropEndWhile p cs = [] := by
  have hreverse : ∀ c ∈ cs.reverse, p c := fun c hc => h c (List.mem_reverse.1 hc)
  have hdrop : (cs.reverse ++ []).dropWhile p = [] := by
    rw [List.dropWhile_append_of_pos hreverse]
    rfl
  rw [List.append_nil] at hdrop
  rw [dropEndWhile, hdrop]
  rfl

/-- Trimming leaves out nothing that stays, and adds nothing. -/
theorem mem_trimWhere {c : Char} (hc : p c = false) : c ∈ trimWhere p cs ↔ c ∈ cs := by
  have hdrop (xs : List Char) : c ∈ xs.dropWhile p ↔ c ∈ xs := by
    refine ⟨fun h => (List.dropWhile_sublist p).subset h, fun h => ?_⟩
    rw [← List.takeWhile_append_dropWhile (p := p) (l := xs), List.mem_append] at h
    refine h.resolve_left fun htake => ?_
    rw [List.all_eq_true.1 List.all_takeWhile c htake] at hc
    cases hc
  rw [trimWhere, dropEndWhile, List.mem_reverse, hdrop, List.mem_reverse, hdrop]

/-- **Trimming gives back what stands between characters that go.** -/
theorem trimWhere_padded {before core after : List Char} (hbefore : ∀ c ∈ before, p c) (hafter : ∀ c ∈ after, p c)
    (hfirst : core.head?.any p = false) (hlast : core.getLast?.any p = false) :
    trimWhere p (before ++ (core ++ after)) = core := by
  rw [trimWhere, List.dropWhile_append_of_pos hbefore]
  by_cases hcore : core = []
  · subst hcore
    rw [List.nil_append]
    exact dropEndWhile_of_forall fun c hc => hafter c ((List.dropWhile_sublist p).subset hc)
  · have hhead : (core ++ after).head?.any p = false := by
      obtain ⟨c, cs, rfl⟩ := List.exists_cons_of_ne_nil hcore
      exact hfirst
    rw [dropWhile_of_head? hhead, dropEndWhile_append, if_pos (dropEndWhile_of_forall hafter),
      dropEndWhile_of_getLast? hlast]

/-- A blank is none of the other characters. -/
theorem ne_of_isBlank {c d : Char} (hc : isBlank c) (hd : isBlank d = false) : c ≠ d := by
  rintro rfl
  simp [hc] at hd

/-- A text of blanks. -/
def AllBlank (cs : List Char) : Prop :=
  ∀ c ∈ cs, isBlank c

/-- Trimming takes off the blanks around a text that has none at its ends. -/
theorem trim_padded {before core after : List Char} (hbefore : AllBlank before) (hafter : AllBlank after)
    (hfirst : core.head?.any isBlank = false) (hlast : core.getLast?.any isBlank = false) :
    trim (before ++ (core ++ after)) = core :=
  trimWhere_padded hbefore hafter hfirst hlast

/-- A text without blanks at its ends is left as it is. -/
theorem trim_eq_self (hfirst : cs.head?.any isBlank = false) (hlast : cs.getLast?.any isBlank = false) :
    trim cs = cs := by
  have hpadded := trim_padded (List.forall_mem_nil _) (List.forall_mem_nil _) hfirst hlast
  rwa [List.nil_append, List.append_nil] at hpadded

/-- Nothing is left of blanks. -/
theorem trim_of_allBlank (h : AllBlank cs) : trim cs = [] := by
  have htrim : trim (cs ++ ([] ++ [])) = [] := trim_padded h (List.forall_mem_nil _) rfl rfl
  rwa [List.append_nil, List.append_nil] at htrim

end Text

/-! ## Words -/

/-- The code points of all blanks. -/
def blankCodes : List Nat :=
  List.range' 9 5 ++ List.range' 28 5 ++ [0x85, 0xA0, 0x1680] ++ List.range' 0x2000 11 ++
    [0x2028, 0x2029, 0x202F, 0x205F, 0x3000]

/-- The blanks are listed by their codes. -/
theorem toNat_mem_blankCodes {x : Char} (h : Text.isBlank x = true) : x.toNat ∈ blankCodes := by
  unfold Text.isBlank at h
  simp only [Bool.or_eq_true, Bool.and_eq_true, decide_eq_true_eq, beq_iff_eq] at h
  simp only [blankCodes, List.mem_append, List.mem_range'_1, List.mem_cons, List.not_mem_nil, or_false]
  omega

/-- A blank is no part of a word. -/
theorem not_isWord_of_isBlank {x : Char} (h : Text.isBlank x = true) : Text.isWord x = false := by
  have hnone : ∀ n ∈ blankCodes, Text.isWord (Char.ofNat n) = false := by
    decide +kernel
  have hx := hnone _ (toNat_mem_blankCodes h)
  rwa [Char.ofNat_toNat] at hx

end SpringAtlas
