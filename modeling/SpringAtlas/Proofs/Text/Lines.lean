import SpringAtlas.Text.Lines

/-!
# `Proofs.Text.Lines` — lines and the breaks between them

A text is cut at its separators and at nothing else: the pieces of a text that was joined from pieces are those pieces,
and where the lines of a text begin and end depends on the places of its line breaks alone.

## Contents
* `join_flatMap` — what was joined block by block
* `splitWhere_append`, `splitWhere_join`, `join_splitWhere` — cutting what was joined, and joining what was cut
* `lines_join`, `splitLines_join` — the lines of joined lines
* `length_lines` — how many lines a text has
* `map_length_lines_eq_iff` — texts whose lines have the same bounds
-/

namespace SpringAtlas.Text

/-! ## Joining -/

/-- Joining in two steps is joining. -/
theorem join_flatMap {α : Type} (f : α → List String) (xs : List α) :
    String.join (xs.flatMap f) = String.join (xs.map fun x => String.join (f x)) := by
  induction xs with
  | nil => rfl
  | cons x xs ih => rw [List.flatMap_cons, String.join_append, ih, List.map_cons, String.join_cons]

/-! ## Cutting -/

/-- Every text has a piece. -/
theorem splitWhere_ne_nil (p : Char → Bool) (cs : List Char) : splitWhere p cs ≠ [] := by
  cases cs with
  | nil => simp [splitWhere]
  | cons c cs =>
    rw [splitWhere]
    split
    · simp
    · cases splitWhere p cs <;> simp [consHead]

/-- No piece holds a separator. -/
theorem splitWhere_no_separator {p : Char → Bool} {cs w : List Char} (h : w ∈ splitWhere p cs) :
    ∀ c ∈ w, p c = false := by
  induction cs generalizing w with
  | nil => simp_all [splitWhere]
  | cons d cs ih =>
    rw [splitWhere] at h
    split at h
    · rcases List.mem_cons.1 h with rfl | h
      · simp
      · exact ih h
    · next hd =>
      obtain ⟨v, vs, hv⟩ := List.exists_cons_of_ne_nil (splitWhere_ne_nil p cs)
      rw [hv, consHead] at h
      rcases List.mem_cons.1 h with rfl | h
      · intro c hc
        rcases List.mem_cons.1 hc with rfl | hc
        · simpa using hd
        · exact ih (by simp [hv]) c hc
      · exact ih (by simp [hv, h])

/-- A text without separators is one piece. -/
theorem splitWhere_of_forall {p : Char → Bool} {cs : List Char} (h : ∀ c ∈ cs, p c = false) :
    splitWhere p cs = [cs] := by
  induction cs with
  | nil => rfl
  | cons c cs ih =>
    rw [splitWhere, h c (by simp), ih fun d hd => h d (List.mem_cons_of_mem _ hd)]
    rfl

/-- A separator parts the pieces in front of it from those behind. -/
theorem splitWhere_append_cons {p : Char → Bool} {sep : Char} (hsep : p sep) (cs rest : List Char) :
    splitWhere p (cs ++ sep :: rest) = splitWhere p cs ++ splitWhere p rest := by
  induction cs with
  | nil => simp [splitWhere, hsep]
  | cons c cs ih =>
    rw [List.cons_append, splitWhere, splitWhere, ih]
    split
    · rfl
    · obtain ⟨w, ws, hws⟩ := List.exists_cons_of_ne_nil (splitWhere_ne_nil p cs)
      rw [hws]
      rfl

/-- A piece without separators ends at the separator behind it. -/
theorem splitWhere_append {p : Char → Bool} {cs : List Char} (h : ∀ c ∈ cs, p c = false) {sep : Char}
    (hsep : p sep) (rest : List Char) : splitWhere p (cs ++ sep :: rest) = cs :: splitWhere p rest := by
  rw [splitWhere_append_cons hsep, splitWhere_of_forall h, List.singleton_append]

/-- A separator stands between two pieces. -/
theorem join_cons_cons (sep w w' : List Char) (ws : List (List Char)) :
    join sep (w :: w' :: ws) = w ++ (sep ++ join sep (w' :: ws)) := by
  simp [join, List.intersperse]

/-- A single piece is joined to itself, without a separator. -/
theorem join_singleton (sep w : List Char) : join sep [w] = w := by
  simp [join, List.intersperse]

/-- The first character of joined pieces is that of the first piece. -/
theorem join_head_cons (sep : List Char) (c : Char) (w : List Char) (ws : List (List Char)) :
    join sep ((c :: w) :: ws) = c :: join sep (w :: ws) := by
  cases ws with
  | nil => rw [join_singleton, join_singleton]
  | cons v ws => rw [join_cons_cons, join_cons_cons, List.cons_append]

/-- Joined pieces hold the characters of the separator and of the pieces. -/
theorem mem_join {sep : List Char} {ws : List (List Char)} {c : Char} (h : c ∈ join sep ws) :
    c ∈ sep ∨ ∃ w ∈ ws, c ∈ w := by
  induction ws with
  | nil => simp [join] at h
  | cons w ws ih =>
    cases ws with
    | nil =>
      rw [join_singleton] at h
      exact Or.inr ⟨w, List.mem_cons_self, h⟩
    | cons w' ws =>
      rw [join_cons_cons, List.mem_append, List.mem_append] at h
      rcases h with h | h | h
      · exact Or.inr ⟨w, List.mem_cons_self, h⟩
      · exact Or.inl h
      · exact (ih h).imp_right fun ⟨v, hv, hc⟩ => ⟨v, List.mem_cons_of_mem _ hv, hc⟩

/-- Joined pieces hold the characters of the first piece. -/
theorem mem_join_head {sep w : List Char} {c : Char} (h : c ∈ w) (ws : List (List Char)) : c ∈ join sep (w :: ws) := by
  cases ws with
  | nil =>
    rw [join_singleton]
    exact h
  | cons w' ws =>
    rw [join_cons_cons]
    exact List.mem_append_left _ h

/-- **Joining undoes cutting.** -/
theorem join_splitWhere (sep : Char) (cs : List Char) : join [sep] (splitWhere (· == sep) cs) = cs := by
  induction cs with
  | nil => rfl
  | cons c cs ih =>
    obtain ⟨w, ws, hws⟩ := List.exists_cons_of_ne_nil (splitWhere_ne_nil (· == sep) cs)
    rw [splitWhere]
    split
    · next hc =>
      obtain rfl : c = sep := by simpa using hc
      rw [hws] at ih ⊢
      rw [join_cons_cons, ih]
      rfl
    · rw [hws] at ih ⊢
      cases ws with
      | nil =>
        rw [join_singleton] at ih
        rw [consHead, join_singleton, ih]
      | cons w' ws =>
        rw [join_cons_cons] at ih
        rw [consHead, join_cons_cons, List.cons_append, ih]

/-- **Cutting undoes joining**, if no piece holds a separator. -/
theorem splitWhere_join {p : Char → Bool} {sep : Char} (hsep : p sep) {pieces : List (List Char)} (hne : pieces ≠ [])
    (h : ∀ w ∈ pieces, ∀ c ∈ w, p c = false) : splitWhere p (join [sep] pieces) = pieces := by
  induction pieces with
  | nil => exact absurd rfl hne
  | cons w ws ih =>
    cases ws with
    | nil => rw [join_singleton, splitWhere_of_forall (h w (by simp))]
    | cons w' ws =>
      rw [join_cons_cons, List.singleton_append, splitWhere_append (h w (by simp)) hsep, ih (by simp)]
      exact fun v hv => h v (List.mem_cons_of_mem _ hv)

/-- A text without blanks is one word. -/
theorem squeeze_of_forall {cs : List Char} (h : ∀ c ∈ cs, isBlank c = false) : squeeze cs = cs := by
  rw [squeeze, words, splitWhere_of_forall h]
  cases cs with
  | nil => rfl
  | cons c cs => exact join_singleton [' '] (c :: cs)

/-- Lines that are joined by line breaks are found again. -/
theorem lines_join {ls : List (List Char)} (hne : ls ≠ []) (h : ∀ l ∈ ls, '\n' ∉ l) : lines (join ['\n'] ls) = ls := by
  refine splitWhere_join rfl hne fun l hl c hc => ?_
  have hne : c ≠ '\n' := fun he => h l hl (he ▸ hc)
  simpa using hne

/-! ## All line breaks -/

/-- A character that breaks no line goes to the first line. -/
theorem splitLines_cons {c : Char} (h : isLineBreak c = false) (cs : List Char) :
    splitLines (c :: cs) = consHead c (splitLines cs) := by
  rw [splitLines]
  · rw [h]
    rfl
  · -- the first half of a break of two characters is a break itself
    rintro cs' rfl -
    exact absurd h (by decide)

theorem splitLines_newline (cs : List Char) : splitLines ('\n' :: cs) = [] :: splitLines cs := by
  rw [splitLines]
  · rfl
  · rintro cs' h
    exact absurd h (by decide)

variable {l : List Char} {ls : List (List Char)}

/-- A text without line breaks is one line, unless it is empty. -/
theorem splitLines_of_forall (h : ∀ c ∈ l, isLineBreak c = false) (hne : l ≠ []) : splitLines l = [l] := by
  induction l with
  | nil => exact absurd rfl hne
  | cons c l ih =>
    rw [splitLines_cons (h c List.mem_cons_self)]
    by_cases hl : l = []
    · subst hl
      rfl
    · rw [ih (fun d hd => h d (List.mem_cons_of_mem _ hd)) hl]
      rfl

/-- A line ends at the newline behind it. -/
theorem splitLines_append (h : ∀ c ∈ l, isLineBreak c = false) (rest : List Char) :
    splitLines (l ++ '\n' :: rest) = l :: splitLines rest := by
  induction l with
  | nil => exact splitLines_newline rest
  | cons c l ih =>
    rw [List.cons_append, splitLines_cons (h c List.mem_cons_self), ih fun d hd => h d (List.mem_cons_of_mem _ hd)]
    rfl

/-- **Cutting into lines undoes joining them**, if none of them is empty. -/
theorem splitLines_join (h : ∀ l ∈ ls, ∀ c ∈ l, isLineBreak c = false) (hne : ∀ l ∈ ls, l ≠ []) :
    splitLines (join ['\n'] ls) = ls := by
  induction ls with
  | nil => rfl
  | cons l ls ih =>
    have hl := h l List.mem_cons_self
    have hih := ih (fun m hm => h m (List.mem_cons_of_mem _ hm)) fun m hm => hne m (List.mem_cons_of_mem _ hm)
    cases ls with
    | nil => rw [join_singleton, splitLines_of_forall hl (hne l List.mem_cons_self)]
    | cons l' ls => rw [join_cons_cons, List.singleton_append, splitLines_append hl, hih]

/-- A newline behind the last line opens no further line. -/
theorem splitLines_join_concat (h : ∀ l ∈ ls, ∀ c ∈ l, isLineBreak c = false) :
    splitLines (join ['\n'] (ls ++ [[]])) = ls := by
  induction ls with
  | nil => rfl
  | cons l ls ih =>
    obtain ⟨l', ls', hls⟩ := List.exists_cons_of_ne_nil (List.append_ne_nil_of_right_ne_nil ls (List.cons_ne_nil [] []))
    have hih := ih fun m hm => h m (List.mem_cons_of_mem _ hm)
    rw [hls] at hih
    rw [List.cons_append, hls, join_cons_cons, List.singleton_append, splitLines_append (h l List.mem_cons_self), hih]

/-! ## Bounds of lines -/

theorem map_length_consHead (c : Char) {ws : List (List Char)} (h : ws ≠ []) :
    (consHead c ws).map List.length = (ws.map List.length).modifyHead (· + 1) := by
  cases ws with
  | nil => exact absurd rfl h
  | cons w ws => rfl

theorem lines_ne_nil (cs : List Char) : lines cs ≠ [] :=
  splitWhere_ne_nil _ cs

theorem lines_cons_newline (cs : List Char) : lines ('\n' :: cs) = [] :: lines cs := by
  simp [lines, splitWhere]

theorem lines_cons {c : Char} (h : c ≠ '\n') (cs : List Char) : lines (c :: cs) = consHead c (lines cs) := by
  simp [lines, splitWhere, h]

/-- There is one line more than there are line breaks. -/
theorem length_lines (cs : List Char) : (lines cs).length = cs.count '\n' + 1 := by
  induction cs with
  | nil => rfl
  | cons c cs ih =>
    by_cases hc : c = '\n'
    · rw [hc, lines_cons_newline, List.length_cons, ih, List.count_cons_self]
    · obtain ⟨l, ls, hl⟩ := List.exists_cons_of_ne_nil (lines_ne_nil cs)
      rw [lines_cons hc, List.count_cons_of_ne hc, ← ih, hl]
      rfl

/-- The lengths of the lines of `c :: cs` tell whether `c` is a line break. -/
theorem map_length_lines_cons (c : Char) (cs : List Char) :
    (lines (c :: cs)).map List.length =
      if c = '\n' then 0 :: (lines cs).map List.length else ((lines cs).map List.length).modifyHead (· + 1) := by
  by_cases hc : c = '\n'
  · simp [hc, lines_cons_newline]
  · rw [lines_cons hc, map_length_consHead c (lines_ne_nil cs), if_neg hc]

/-- **Lines have the same bounds exactly if the line breaks stand at the same places.** -/
theorem map_length_lines_eq_iff {cs ds : List Char} (h : cs.length = ds.length) :
    (lines cs).map List.length = (lines ds).map List.length ↔ cs.map (· == '\n') = ds.map (· == '\n') := by
  induction cs generalizing ds with
  | nil => simp [List.eq_nil_of_length_eq_zero h.symm]
  | cons c cs ih =>
    cases ds with
    | nil => simp at h
    | cons d ds =>
      have hih := ih (Nat.succ.inj h)
      -- the first line of both texts has some length, since every text has a line
      obtain ⟨m, ms, hm⟩ := List.exists_cons_of_ne_nil (mt (List.map_eq_nil_iff (f := List.length)).1 (lines_ne_nil cs))
      obtain ⟨n, ns, hn⟩ := List.exists_cons_of_ne_nil (mt (List.map_eq_nil_iff (f := List.length)).1 (lines_ne_nil ds))
      rw [hm, hn] at hih
      rw [map_length_lines_cons, map_length_lines_cons, hm, hn, List.map_cons, List.map_cons, List.cons.injEq, ← hih]
      by_cases hc : c = '\n' <;> by_cases hd : d = '\n' <;> simp [hc, hd, beq_eq_false_iff_ne.2]

end SpringAtlas.Text
