import SpringAtlas.Proofs.Text.Lines

/-!
# `Proofs.Text.Words` — words and the blanks between them

A text that was written word by word falls into those words again, and squeezing its blanks leaves the words with one space
between them.

## Contents
* `spaced`, `join_append_spaced` — words with a space behind each
* `words_spaced`, `squeeze_spaced` — the words of such a text
-/

namespace SpringAtlas.Text

/-- The words one after another, each with a space behind it. -/
def spaced (ws : List (List Char)) : List Char :=
  ws.flatMap fun w => w ++ [' ']

/-- Behind each word there is a blank. -/
theorem spaced_cons (w : List Char) (ws : List (List Char)) : spaced (w :: ws) = w ++ ' ' :: spaced ws := by
  simp [spaced]

/-- Spaced words hold their characters and blanks. -/
theorem mem_spaced {ws : List (List Char)} {c : Char} (h : c ∈ spaced ws) : c = ' ' ∨ ∃ w ∈ ws, c ∈ w := by
  obtain ⟨w, hw, hc⟩ := List.mem_flatMap.1 h
  rcases List.mem_append.1 hc with hc | hc
  · exact Or.inr ⟨w, hw, hc⟩
  · exact Or.inl (List.mem_singleton.1 hc)

/-- Spaced words end in a blank, if there are any. -/
theorem getLast?_spaced (ws : List (List Char)) : spaced ws = [] ∨ (spaced ws).getLast? = some ' ' := by
  rcases List.eq_nil_or_concat ws with rfl | ⟨ws, w, rfl⟩
  · exact Or.inl rfl
  · right
    rw [List.concat_eq_append, spaced, List.flatMap_append, List.flatMap_singleton, ← List.append_assoc,
      List.getLast?_concat]

/-- Of joined words, all but the last ones have a space behind them. -/
theorem join_append_spaced (ws : List (List Char)) {vs : List (List Char)} (hne : vs ≠ []) :
    join [' '] (ws ++ vs) = spaced ws ++ join [' '] vs := by
  induction ws with
  | nil => rfl
  | cons w ws ih =>
    obtain ⟨v, vs', hcons⟩ := List.exists_cons_of_ne_nil (List.append_ne_nil_of_right_ne_nil ws hne)
    rw [List.cons_append, hcons, join_cons_cons, ← hcons, ih, spaced_cons]
    simp

/-- A word: not empty and without blanks. -/
def IsSolid (w : List Char) : Prop :=
  w ≠ [] ∧ ∀ c ∈ w, isBlank c = false

/-- Words that are joined by blanks: the first one, and a blank in front of each other one. -/
theorem join_cons (w : List Char) (ws : List (List Char)) : join [' '] (w :: ws) = w ++ ws.flatMap (' ' :: ·) := by
  induction ws generalizing w with
  | nil => simp [join_singleton]
  | cons v ws ih =>
    rw [join_cons_cons, ih, List.flatMap_cons]
    rfl

theorem words_append_space {w : List Char} (h : IsSolid w) (rest : List Char) :
    words (w ++ ' ' :: rest) = w :: words rest := by
  rw [words, splitWhere_append h.2 (by decide), List.filter_cons_of_pos (by simpa using h.1)]
  rfl

/-- Joined words start with a word. -/
theorem head?_join_any {ws : List (List Char)} (h : ∀ w ∈ ws, IsSolid w) :
    (join [' '] ws).head?.any isBlank = false := by
  cases ws with
  | nil => rfl
  | cons w ws =>
    obtain ⟨hne, hsolid⟩ := h w List.mem_cons_self
    obtain ⟨c, cs, rfl⟩ := List.exists_cons_of_ne_nil hne
    rw [join_cons, List.cons_append, List.head?_cons, Option.any_some]
    exact hsolid c List.mem_cons_self

theorem words_spaced {ws : List (List Char)} (h : ∀ w ∈ ws, IsSolid w) : words (spaced ws) = ws := by
  induction ws with
  | nil => rfl
  | cons w ws ih =>
    rw [spaced_cons, words_append_space (h w List.mem_cons_self), ih fun v hv => h v (List.mem_cons_of_mem _ hv)]

/-- **Squeezing leaves one space between the words.** -/
theorem squeeze_spaced {ws : List (List Char)} (h : ∀ w ∈ ws, IsSolid w) : squeeze (spaced ws) = join [' '] ws := by
  rw [squeeze, words_spaced h]

end SpringAtlas.Text
