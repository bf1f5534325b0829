/-!
# `Proofs.Sorting` — stable sorting

Sorting by a key puts elements with one key next to each other and, being stable, leaves them in the order in which they
came. These two facts are all that can be said: a list whose keys do not decrease and that holds, for each key, the given
elements in the given order is known from end to end (`eq_of_sorted`).

## Contents
* `filter_mergeSort` — elements that compare as equal keep their order
* `eq_of_sorted` — a sorted list is known by its elements of each key
-/

namespace SpringAtlas

variable {α κ : Type}

/-- **A stable sort leaves elements that compare as equal in order.** -/
theorem filter_mergeSort {le : α → α → Bool} (htrans : ∀ a b c, le a b = true → le b c = true → le a c = true)
    (htotal : ∀ a b, (le a b || le b a) = true) {ok : α → Bool}
    (htied : ∀ a b, ok a = true → ok b = true → le a b = true) (xs : List α) :
    (xs.mergeSort le).filter ok = xs.filter ok := by
  have hall : (xs.filter ok).Pairwise fun a b => le a b = true := by
    rw [List.pairwise_filter]
    exact List.pairwise_of_forall fun a b ha hb => htied a b ha hb
  -- they are sorted already, so the sorted list holds them in this order
  have hkept : (xs.filter ok).Sublist (xs.mergeSort le) :=
    List.sublist_mergeSort htrans htotal hall List.filter_sublist
  have hkept' := hkept.filter ok
  simp only [List.filter_filter, Bool.and_self] at hkept'
  have hlength : ((xs.mergeSort le).filter ok).length = (xs.filter ok).length :=
    ((List.mergeSort_perm xs le).filter ok).length_eq
  exact (hkept'.eq_of_length hlength.symm).symm

theorem mem_iff_of_filter_eq [DecidableEq κ] {key : α → κ} {xs ys : List α}
    (h : ∀ k, (xs.filter fun a => key a = k) = ys.filter fun a => key a = k) (a : α) : a ∈ xs ↔ a ∈ ys := by
  have hkey : a ∈ (xs.filter fun b => key b = key a) ↔ a ∈ ys.filter fun b => key b = key a := by rw [h]
  simpa using hkey

/-- **A sorted list is known by its elements of each key.** -/
theorem eq_of_sorted [DecidableEq κ] (key : α → κ) {le : κ → κ → Prop} (hantisymm : ∀ a b, le a b → le b a → a = b)
    {xs ys : List α} (hxs : xs.Pairwise fun a b => le (key a) (key b)) (hys : ys.Pairwise fun a b => le (key a) (key b))
    (h : ∀ k, (xs.filter fun a => key a = k) = ys.filter fun a => key a = k) : xs = ys := by
  induction xs generalizing ys with
  | nil =>
    cases ys with
    | nil => rfl
    | cons y ys => exact absurd ((mem_iff_of_filter_eq h y).2 List.mem_cons_self) List.not_mem_nil
  | cons x xs ih =>
    cases ys with
    | nil => exact absurd ((mem_iff_of_filter_eq h x).1 List.mem_cons_self) List.not_mem_nil
    | cons y ys =>
      obtain ⟨hx, hxs'⟩ := List.pairwise_cons.1 hxs
      obtain ⟨hy, hys'⟩ := List.pairwise_cons.1 hys
      -- each head is in the other list too, so neither key comes before the other one
      have hhead : x = y := by
        rcases List.mem_cons.1 ((mem_iff_of_filter_eq h x).1 List.mem_cons_self) with he | hxy
        · exact he
        · rcases List.mem_cons.1 ((mem_iff_of_filter_eq h y).2 List.mem_cons_self) with he | hyx
          · exact he.symm
          · have hkey : key x = key y := hantisymm _ _ (hx y hyx) (hy x hxy)
            have hfirst := h (key x)
            rw [List.filter_cons_of_pos (by simp), List.filter_cons_of_pos (by simp [hkey])] at hfirst
            exact (List.cons.inj hfirst).1
      subst hhead
      have hrest : ∀ k, (xs.filter fun a => key a = k) = ys.filter fun a => key a = k := by
        intro k
        have hk := h k
        by_cases hx : key x = k
        · rw [List.filter_cons_of_pos (by simp [hx]), List.filter_cons_of_pos (by simp [hx])] at hk
          exact (List.cons.inj hk).2
        · rwa [List.filter_cons_of_neg (by simp [hx]), List.filter_cons_of_neg (by simp [hx])] at hk
      rw [ih hxs' hys' hrest]

end SpringAtlas
