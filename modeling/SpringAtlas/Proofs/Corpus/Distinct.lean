import Mathlib.Data.List.Induction
import Mathlib.Data.List.Nodup
import SpringAtlas.Corpus.Basic

/-!
# `Proofs.Corpus.Distinct` — the first element of each key

`distinctBy` keeps the first of the elements that have one key. A search by key therefore finds in the result what it finds
in the list (`find?_distinctBy`), and with that an element is in the result exactly if it is the first of its key.
-/

namespace SpringAtlas

variable {α κ : Type} [BEq κ]

/-- One more element is kept if its key is new. -/
theorem distinctBy_concat (key : α → κ) (xs : List α) (x : α) :
    distinctBy key (xs ++ [x]) =
      if (distinctBy key xs).any fun y => key y == key x then distinctBy key xs else distinctBy key xs ++ [x] := by
  rw [distinctBy, List.foldl_append]
  rfl

variable [LawfulBEq κ]

/-- Under every key the first element is kept. -/
theorem find?_distinctBy (key : α → κ) (xs : List α) (k : κ) :
    ((distinctBy key xs).find? fun x => key x == k) = xs.find? fun x => key x == k := by
  induction xs using List.reverseRecOn with
  | nil => rfl
  | append_singleton xs x ih =>
    rw [distinctBy_concat, List.find?_append, ← ih]
    split
    · next htaken =>
      by_cases hk : key x = k
      · -- an element with the key of `x` stands before it
        subst hk
        obtain ⟨y, hy, hkey⟩ := List.any_eq_true.1 htaken
        have hfound : ((distinctBy key xs).find? fun z => key z == key x).isSome := List.find?_isSome.2 ⟨y, hy, hkey⟩
        rw [Option.or_of_isSome hfound]
      · simp [hk]
    · rw [List.find?_append]

/-- **No key is kept twice.** -/
theorem nodup_map_distinctBy (key : α → κ) (xs : List α) : ((distinctBy key xs).map key).Nodup := by
  induction xs using List.reverseRecOn with
  | nil => exact List.nodup_nil
  | append_singleton xs x ih =>
    rw [distinctBy_concat]
    split
    · exact ih
    · next hfree =>
      rw [List.map_append, List.map_singleton, ← List.concat_eq_append, List.nodup_concat]
      refine ⟨fun hmem => hfree ?_, ih⟩
      obtain ⟨y, hy, hkey⟩ := List.mem_map.1 hmem
      exact List.any_eq_true.2 ⟨y, hy, by simp [hkey]⟩

/-- An element is kept if it is the first one with its key. -/
theorem mem_distinctBy_iff {key : α → κ} {xs : List α} {x : α} :
    x ∈ distinctBy key xs ↔ (xs.find? fun y => key y == key x) = some x := by
  rw [← find?_distinctBy]
  constructor
  · intro hx
    have hfound : ((distinctBy key xs).find? fun y => key y == key x).isSome := List.find?_isSome.2 ⟨x, hx, by simp⟩
    obtain ⟨y, hy⟩ := Option.isSome_iff_exists.1 hfound
    have hkey : key y = key x := by simpa using List.find?_some hy
    rw [hy, List.inj_on_of_nodup_map (nodup_map_distinctBy key xs) (List.mem_of_find?_eq_some hy) hx hkey]
  · exact List.mem_of_find?_eq_some

end SpringAtlas
