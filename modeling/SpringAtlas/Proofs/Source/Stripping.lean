import Mathlib.Logic.Function.Iterate
import SpringAtlas.Proofs.Pattern.Replace
import SpringAtlas.Proofs.Source.Brackets
import SpringAtlas.Proofs.Source.Nesting

/-!
# `Proofs.Source.Stripping` — stripping is bracket matching

Stripping makes rounds, and each round removes the innermost sections. In the end all that stands in a matched pair of
brackets is gone and nothing else is, however the brackets are nested and whether or not they are balanced.

Both sides are compared with what is left of a text while it is read (`leave`): a closing bracket takes away what was left
back to the nearest opening bracket. Each section that a round removes is taken away as a whole, so a round does not change
what is left in the end (`Peels.foldl_leave`), and of a text without a section all is left
(`foldl_leave_of_noSection`). On the other side a closing bracket takes away what lies between it and the bracket that it is
matched with (`leave_reverse`), so what is left is what stands outside of all pairs.

## Contents
* `StopsAfter`, `exists_stopsAfter_stripGenerics` — the rounds end
* `stripInnermost_eq_replaceAll` — a round replaces the matches of a pattern
* `leave`, `stripGenerics_eq_left`, `reverse_foldl_leave` — what is left
* `stripGenerics_matches_brackets` — what stripping leaves
-/

namespace SpringAtlas.Source

open Pattern

variable {cs ds : List Char} {c : Char} {left inner : List Char} {n : Nat}

/-! ## Rounds -/

/-- Rounds are made until one changes nothing. The first `n` of them change the text, and lead from `cs` to `ds`. -/
def StopsAfter (round : List Char → List Char) (n : Nat) (cs ds : List Char) : Prop :=
  IsLeast {m | round^[m + 1] cs = round^[m] cs} n ∧ round^[n] cs = ds

/-- Where rounds stop, one more round changes nothing. -/
theorem StopsAfter.fixed {round : List Char → List Char} (h : StopsAfter round n cs ds) : round ds = ds := by
  obtain ⟨⟨hfixed, -⟩, rfl⟩ := h
  rw [← Function.iterate_succ_apply' round]
  exact hfixed

/-- **Stripping stops at the first round that changes nothing.** -/
theorem exists_stopsAfter_stripGenerics (cs : List Char) : ∃ n, StopsAfter stripInnermost n cs (stripGenerics cs) := by
  induction cs using stripGenerics.induct with
  | case1 cs hshorter ih =>
    obtain ⟨n, ⟨hfixed, hleast⟩, hresult⟩ := ih
    rw [stripGenerics, if_pos hshorter]
    refine ⟨n + 1, ⟨hfixed, ?_⟩, hresult⟩
    intro m hm
    cases m with
    | zero =>
      have hsame : stripInnermost cs = cs := hm
      rw [hsame] at hshorter
      exact absurd hshorter (Nat.lt_irrefl _)
    | succ m => exact Nat.succ_le_succ (hleast hm)
  | case2 cs hlength =>
    rw [stripGenerics, if_neg hlength]
    exact ⟨0, ⟨stripInnermost_eq_self hlength, fun m _ => Nat.zero_le m⟩, rfl⟩

theorem noSection_stripGenerics (cs : List Char) : NoSection (stripGenerics cs) := by
  obtain ⟨n, h⟩ := exists_stopsAfter_stripGenerics cs
  exact stripInnermost_eq_self_iff.1 h.fixed

theorem stripGenerics_of_noSection (h : NoSection cs) : stripGenerics cs = cs := by
  rw [stripGenerics, stripInnermost_eq_self_iff.2 h, if_neg (Nat.lt_irrefl _)]

/-! ## A round replaces matches -/

theorem nesting_of_plain (h : ∀ d ∈ inner, isAngle d = false) : Nesting 0 inner := by
  induction inner with
  | nil => exact .nil
  | cons d inner ih => exact .plain (h d List.mem_cons_self) (ih fun e he => h e (List.mem_cons_of_mem _ he))

/-- The pattern of an innermost section matches only in front of one. -/
theorem fails_section {place : Cursor} (hrest : place.rest = c :: cs)
    (hnone : ¬ (c = '<' ∧ (cs.dropWhile fun d => !isAngle d).head? = some '>')) : Fails (sectionPattern 0) place := by
  intro k
  refine Option.eq_none_iff_forall_ne_some.2 fun r hr => hnone ?_
  obtain ⟨_, ⟨_, ⟨_, hopen, hplain⟩, hclose⟩, -⟩ := run_way hr
  obtain ⟨rest, hrest', rfl⟩ := way_lit hopen
  obtain ⟨inner, rest', hinner, hall, rfl⟩ := way_star_one hplain
  obtain ⟨rest'', hend, rfl⟩ := way_lit hclose
  obtain rfl : rest = inner ++ rest' := hinner
  obtain rfl : rest' = '>' :: rest'' := hend
  obtain ⟨rfl, rfl⟩ : c = '<' ∧ cs = inner ++ '>' :: rest'' := List.cons.inj (hrest.symm.trans hrest')
  have hpass : ∀ d ∈ inner, (!isAngle d) = true := by
    intro d hd
    simpa [isAngle] using hall d hd
  rw [List.dropWhile_append_of_pos hpass]
  exact ⟨rfl, rfl⟩

/-- The matches from a place on are deleted, where `xs` stands between the match before and that place. -/
theorem Peels.splice_eq {stop : Nat} (h : Peels cs ds) (before : Option Char) {pos done : Nat} (xs : List Char)
    (hpos : pos = done + xs.length) (hstop : pos + cs.length = stop) :
    splice (fun _ => []) ((sectionPattern 0).findFrom stop 0 before pos cs) done (xs ++ cs) = xs ++ ds := by
  induction h generalizing before pos done xs with
  | nil => rfl
  | @removed inner rest ds hinner _ ih =>
    have hsection : '<' :: (inner ++ '>' :: rest) = bracketed inner ++ rest := by simp [bracketed]
    rw [hsection] at hstop ⊢
    have htakes : Takes (sectionPattern 0) ⟨before, pos, stop, bracketed inner ++ rest, []⟩ _ :=
      takes_section (nesting_of_plain hinner) rfl
    have hbehind : pos + (bracketed inner).length + rest.length = stop := by
      rw [Nat.add_assoc, ← List.length_append]
      exact hstop
    rw [findFrom_takes hstop htakes (List.cons_ne_nil '<' _) rfl, splice_cons hpos rfl]
    exact congrArg (xs ++ ·) (ih (bracketed inner).getLast? [] rfl hbehind)
  | @kept c cs ds hnone _ ih =>
    have hmatch : (sectionPattern 0).matchAt? before pos stop (c :: cs) = none := matchAt?_eq_none (fails_section rfl hnone)
    have hplace : pos + 1 = done + (xs ++ [c]).length := by
      rw [List.length_append, List.length_singleton, ← Nat.add_assoc, hpos]
    have hend : pos + 1 + cs.length = stop := by
      rw [← hstop, List.length_cons]
      omega
    have hrest := ih (some c) (xs ++ [c]) hplace hend
    rw [List.append_assoc, List.append_assoc] at hrest
    rw [findFrom, hmatch]
    exact hrest

/-- **A round replaces each section that has no bracket inside by nothing.** -/
theorem stripInnermost_eq_replaceAll (cs : List Char) : stripInnermost cs = (sectionPattern 0).replaceAll [] cs :=
  ((peels_stripInnermost cs).splice_eq none [] rfl (Nat.zero_add _)).symm

/-! ## What is left -/

/-- What is left of a text, latest first, after one more character. A closing bracket takes away what was left back to the
    nearest opening one. -/
def leave (left : List Char) (c : Char) : List Char :=
  if c = '>' ∧ '<' ∈ left then (left.dropWhile fun d => d != '<').tail else c :: left

theorem leave_of_ne (hc : c ≠ '>') : leave left c = c :: left :=
  if_neg fun h => hc h.1

theorem leave_of_not_mem (h : '<' ∉ left) : leave left c = c :: left :=
  if_neg fun hboth => h hboth.2

theorem leave_close (h : '<' ∉ inner) : leave (inner ++ '<' :: left) '>' = left := by
  have hpass : ∀ d ∈ inner, (d != '<') = true := fun d hd => bne_iff_ne.2 fun he => h (he ▸ hd)
  unfold leave
  rw [if_pos ⟨rfl, by simp⟩, List.dropWhile_append_of_pos hpass, List.dropWhile_cons_of_neg (by simp), List.tail_cons]

theorem foldl_leave_of_not_mem (h : '>' ∉ cs) : cs.foldl leave left = cs.reverse ++ left := by
  induction cs generalizing left with
  | nil => rfl
  | cons c cs ih =>
    have hc : c ≠ '>' := fun he => h (he ▸ List.mem_cons_self)
    rw [List.foldl_cons, leave_of_ne hc, ih fun hmem => h (List.mem_cons_of_mem _ hmem), List.reverse_cons,
      List.append_assoc]
    rfl

/-- Of a text without a section all is left. -/
theorem foldl_leave_of_noSection (h : NoSection cs) (hleft : '<' ∉ left) : cs.foldl leave left = cs.reverse ++ left := by
  induction cs generalizing left with
  | nil => rfl
  | cons c cs ih =>
    obtain ⟨hopen, hrest⟩ := noSection_cons.1 h
    by_cases hc : c = '<'
    · apply foldl_leave_of_not_mem
      intro hmem
      exact hopen hc (List.mem_of_ne_of_mem (by rw [hc]; decide) hmem)
    · have hleft' : '<' ∉ c :: left := by
        intro hmem
        exact hleft (List.mem_of_ne_of_mem (fun he => hc he.symm) hmem)
      rw [List.foldl_cons, leave_of_not_mem hleft, ih hrest hleft', List.reverse_cons, List.append_assoc]
      rfl

/-- **A round does not change what is left in the end.** -/
theorem Peels.foldl_leave (h : Peels cs ds) (left : List Char) : ds.foldl leave left = cs.foldl leave left := by
  induction h generalizing left with
  | nil => rfl
  | @removed inner rest ds hinner _ ih =>
    have hclose : '>' ∉ inner := fun hmem => absurd (hinner _ hmem) (by decide)
    have hopen : '<' ∉ inner.reverse := fun hmem => absurd (hinner _ (List.mem_reverse.1 hmem)) (by decide)
    rw [ih, List.foldl_cons, leave_of_ne (by decide), List.foldl_append, foldl_leave_of_not_mem hclose, List.foldl_cons,
      leave_close hopen]
  | @kept c _ _ _ _ ih => exact ih (leave left c)

theorem StopsAfter.foldl_leave (h : StopsAfter stripInnermost n cs ds) : ds.foldl leave [] = cs.foldl leave [] := by
  obtain ⟨-, rfl⟩ := h
  induction n with
  | zero => rfl
  | succ n ih => rw [Function.iterate_succ_apply', (peels_stripInnermost _).foldl_leave, ih]

theorem stripGenerics_eq_left (cs : List Char) : stripGenerics cs = (cs.foldl leave []).reverse := by
  obtain ⟨n, h⟩ := exists_stopsAfter_stripGenerics cs
  rw [← h.foldl_leave, foldl_leave_of_noSection (noSection_stripGenerics cs) List.not_mem_nil, List.append_nil,
    List.reverse_reverse]

/-! ## What is left stands outside of all pairs -/

section Step

variable {b : Brackets} (h : b.Reads cs) (hleft : left.reverse = unenclosed b.pairs cs.zipIdx)

include h hleft

/-- The bracket that a closing one is matched with is the last that is left, and stands outside of all pairs so far. -/
theorem leave_reverse_close {o : Nat} {opened : List Nat} (hopened : b.opened = o :: opened) :
    (leave left '>').reverse = unenclosed ((o, cs.length) :: b.pairs) (cs ++ ['>']).zipIdx := by
  have hgreatest := h.isGreatest hopened
  have houtside := h.not_enclosed o (hopened ▸ List.mem_cons_self)
  obtain ⟨xs, ys, rfl, rfl⟩ : ∃ xs ys, cs = xs ++ '<' :: ys ∧ xs.length = o := by
    obtain ⟨hlt, hget⟩ := List.getElem?_eq_some_iff.1 hgreatest.1.2.1
    refine ⟨cs.take o, cs.drop (o + 1), ?_, List.length_take_of_le (Nat.le_of_lt hlt)⟩
    rw [← hget, List.getElem_cons_drop, List.take_append_drop]
  -- one that is left behind it would be a nearer one
  have hlast : '<' ∉ unenclosed b.pairs (ys.zipIdx (xs.length + 1)) := by
    intro hmem
    obtain ⟨i, hi, hout⟩ := mem_unenclosed.1 hmem
    obtain ⟨hlt, hget⟩ := List.mk_mem_zipIdx_iff_le_and_getElem?_sub.1 hi
    have hopen : (xs ++ '<' :: ys)[i]? = some '<' := by
      rw [List.getElem?_append_right (by omega), List.getElem?_cons, if_neg (by omega), Nat.sub_sub, hget]
    have hle : i ≤ xs.length := hgreatest.2 ((h.mem_opened_iff i).1 (h.mem_opened hopen hout))
    exact Nat.not_le.2 hlt hle
  have hsplit : left = (unenclosed b.pairs (ys.zipIdx (xs.length + 1))).reverse ++
      '<' :: (unenclosed b.pairs xs.zipIdx).reverse := by
    rw [← List.reverse_reverse left, hleft, unenclosed_split houtside]
    simp
  rw [unenclosed_close, hsplit, leave_close fun hmem => hlast (List.mem_reverse.1 hmem), List.reverse_reverse]

/-- Where no bracket is open, none is left. -/
theorem open_not_mem_left (hopened : b.opened = []) : '<' ∉ left := by
  intro hmem
  obtain ⟨i, hi, hout⟩ := mem_unenclosed.1 (hleft ▸ List.mem_reverse.2 hmem)
  have hopen := h.mem_opened (List.mk_mem_zipIdx_iff_getElem?.1 hi) hout
  rw [hopened] at hopen
  exact List.not_mem_nil hopen

/-- **One more character leaves what then stands outside of all pairs**, if that was left before. -/
theorem leave_reverse (c : Char) :
    (leave left c).reverse = unenclosed (b.read (c, cs.length)).pairs (cs ++ [c]).zipIdx := by
  have hlast := h.matching.isEnclosed_length
  rcases b.read_cases c cs.length with ⟨rfl, hread⟩ | ⟨o, opened, rfl, hopened, hread⟩ | ⟨-, hclose, hread⟩
  · rw [hread, unenclosed_concat hlast, leave_of_ne (by decide), List.reverse_cons, hleft]
  · rw [hread]
    exact leave_reverse_close h hleft hopened
  · have hstays : leave left c = c :: left := by
      by_cases hc : c = '>'
      · exact leave_of_not_mem (open_not_mem_left h hleft (hclose hc))
      · exact leave_of_ne hc
    rw [hread, unenclosed_concat hlast, hstays, List.reverse_cons, hleft]

end Step

theorem reverse_foldl_leave (cs : List Char) :
    (cs.foldl leave []).reverse = unenclosed (brackets cs).pairs cs.zipIdx := by
  induction cs using List.reverseRecOn with
  | nil => rfl
  | append_singleton cs c ih =>
    rw [List.foldl_append, brackets_concat]
    exact leave_reverse (Brackets.reads_brackets cs) ih c

/-! ## What stripping leaves -/

/-- **Stripping is bracket matching.** Rounds that delete all sections without a bracket inside end for every text, and the
    result is the text without what the one matching of its brackets encloses. No opening bracket in it has a closing one
    behind it, and stripping it once more changes nothing. -/
theorem stripGenerics_matches_brackets (cs : List Char) :
    (∃ n, StopsAfter ((sectionPattern 0).replaceAll []) n cs (stripGenerics cs)) ∧
    (∀ pairs, IsMatching cs pairs ↔ ∀ i j, (i, j) ∈ pairs ↔ (i, j) ∈ (brackets cs).pairs) ∧
    stripGenerics cs = unenclosed (brackets cs).pairs cs.zipIdx ∧
    NoSection (stripGenerics cs) ∧
    stripGenerics (stripGenerics cs) = stripGenerics cs := by
  have hround : stripInnermost = (sectionPattern 0).replaceAll [] := funext stripInnermost_eq_replaceAll
  have hnone := noSection_stripGenerics cs
  refine ⟨?_, fun _ => isMatching_iff, ?_, hnone, stripGenerics_of_noSection hnone⟩
  · rw [← hround]
    exact exists_stopsAfter_stripGenerics cs
  · rw [stripGenerics_eq_left, reverse_foldl_leave]

/-- Brackets without a partner stay: of the opening ones in `a<b<c>d` the nearer one is closed. -/
example : unenclosed (brackets "a<b<c>d".toList).pairs "a<b<c>d".toList.zipIdx = "a<bd".toList := by
  decide

end SpringAtlas.Source
