import SpringAtlas.Proofs.Source.Mask
import SpringAtlas.Proofs.Text.Lines

/-!
# `Proofs.Source.LineBreaks` — line breaks in the mask

A comment keeps its line breaks when it is blanked; a literal does not. A literal ends on its line unless the break is
escaped, so the mask of a text has the line breaks of the text exactly if no literal has a backslash in front of a line
break. Where one does, the lines of the mask are fewer than those of the text, and a line number of the mask points to
the wrong line of the text.

## Contents
* `pieces_text` — the pieces of a text make up the text
* `splitLiteral?_newline_mem` — a line break inside a literal is escaped
* `SplicesLines` — a literal goes on behind a line break
* `mask_keeps_line_breaks_iff` — when the mask has the lines of its text, and a text where it does not
-/

namespace SpringAtlas.Source

/-- **A text is made of its pieces.** -/
theorem pieces_text (t : List Char) : (pieces t).flatMap Piece.text = t := by
  fun_induction pieces t with
  | case1 => rfl
  | case2 c cs ih => rw [List.flatMap_cons, ih, (leads_leadingPiece c cs).text]

/-! ## Line breaks inside literals -/

/-- A line break inside a literal stands behind a backslash. -/
theorem splitLiteral?_newline_mem {q : Char} {cs inner rest : List Char}
    (h : splitLiteral? q cs = some (inner, rest)) (hn : '\n' ∈ inner) : ['\\', '\n'] <:+: inner := by
  induction cs using escaped_induction generalizing inner with
  | nil => simp at h
  | lone => simp at h
  | escape c cs ih =>
    obtain ⟨i, hi, rfl⟩ := splitLiteral?_escape_eq_some.1 h
    by_cases hc : c = '\n'
    · subst hc
      exact ⟨[], i, rfl⟩
    · have hmem : '\n' ∈ i := by simpa [Ne.symm hc] using hn
      exact (ih hi hmem).trans ⟨['\\', c], [], by simp⟩
  | other c cs hc ih =>
    rcases (splitLiteral?_cons_eq_some hc).1 h with ⟨-, rfl, -⟩ | ⟨-, hne, i, hi, rfl⟩
    · simp at hn
    · have hmem : '\n' ∈ i := by simpa [Ne.symm hne] using hn
      exact (ih hi hmem).trans ⟨[c], [], by simp⟩

theorem mem_pieces_literal {t : List Char} {q : Char} {inner : List Char} (h : Piece.literal q inner ∈ pieces t) :
    ∃ cs rest, splitLiteral? q cs = some (inner, rest) := by
  fun_induction pieces t with
  | case1 => simp at h
  | case2 c cs ih =>
    rcases List.mem_cons.1 h with h | h
    · have hl := leads_leadingPiece c cs
      rw [← h] at hl
      cases hl with
      | literal _ hs => exact ⟨cs, _, hs⟩
    · exact ih h

/-- Some literal of the text goes on behind a line break, which a backslash escapes. -/
def SplicesLines (t : List Char) : Prop :=
  ∃ q inner, Piece.literal q inner ∈ pieces t ∧ ['\\', '\n'] <:+: inner

/-! ## Line breaks piece by piece -/

/-- The places of the line breaks of a text. -/
def breakMarks (cs : List Char) : List Bool :=
  cs.map (· == '\n')

/-- Comments and plain characters keep their line breaks, a literal only if it has none. -/
theorem breakMarks_masked_iff (p : Piece) :
    breakMarks p.masked = breakMarks p.text ↔ ∀ q inner, p = .literal q inner → '\n' ∉ inner := by
  cases p with
  | comment body =>
    refine iff_of_true ?_ (by simp)
    simp only [breakMarks, Piece.masked, Piece.text, Piece.blank, List.map_map]
    refine List.map_congr_left fun c _ => ?_
    by_cases hc : c = '\n' <;> simp [hc]
  | literal q inner =>
    simp only [Piece.literal.injEq, breakMarks, Piece.masked, Piece.text, List.map_cons, List.map_append, List.map_replicate,
      List.cons.injEq, true_and, List.append_cancel_right_eq]
    rw [eq_comm, List.eq_replicate_iff]
    constructor
    · rintro ⟨-, h⟩ q' inner' ⟨-, rfl⟩ hn
      simpa using h _ (List.mem_map_of_mem hn)
    · intro h
      refine ⟨by simp, fun b hb => ?_⟩
      obtain ⟨c, hc, rfl⟩ := List.mem_map.1 hb
      have hne : c ≠ '\n' := fun he => h q inner ⟨rfl, rfl⟩ (he ▸ hc)
      simpa using hne
  | plain c => exact iff_of_true rfl (by simp)

theorem breakMarks_flatMap_iff (ps : List Piece) :
    breakMarks (ps.flatMap Piece.masked) = breakMarks (ps.flatMap Piece.text) ↔
      ∀ p ∈ ps, breakMarks p.masked = breakMarks p.text := by
  induction ps with
  | nil => simp
  | cons p ps ih =>
    have hlen : (breakMarks p.masked).length = (breakMarks p.text).length := by
      simp [breakMarks, (masked_kept p).length_eq]
    simp only [List.flatMap_cons, List.forall_mem_cons, ← ih]
    rw [breakMarks, breakMarks, List.map_append, List.map_append]
    exact ⟨fun h => List.append_inj h hlen, fun ⟨h, h'⟩ => congrArg₂ _ h h'⟩

theorem breakMarks_mask_iff (t : List Char) : breakMarks (mask t) = breakMarks t ↔ ¬ SplicesLines t := by
  have hpieces := breakMarks_flatMap_iff (pieces t)
  rw [pieces_text] at hpieces
  simp only [mask, hpieces, breakMarks_masked_iff]
  constructor
  · rintro h ⟨q, inner, hp, hspliced⟩
    exact h _ hp q inner rfl (hspliced.subset (by simp))
  · rintro h p hp q inner rfl hn
    obtain ⟨cs, rest, hs⟩ := mem_pieces_literal hp
    exact h ⟨q, inner, hp, splitLiteral?_newline_mem hs hn⟩

theorem breakMarks_eq_iff {ms cs : List Char} (hlen : ms.length = cs.length) :
    breakMarks ms = breakMarks cs ↔ ∀ i : Nat, ms[i]? = some '\n' ↔ cs[i]? = some '\n' := by
  have hmark (ds : List Char) (i : Nat) : ds[i]? = some '\n' ↔ (breakMarks ds)[i]? = some true := by
    simp [breakMarks]
  constructor
  · intro h i
    rw [hmark, hmark, h]
  · intro h
    refine List.ext_getElem (by simp [breakMarks, hlen]) fun i hi hi' => ?_
    have hbreak := h i
    rw [hmark, hmark, List.getElem?_eq_getElem hi, List.getElem?_eq_getElem hi', Option.some.injEq,
      Option.some.injEq] at hbreak
    exact Bool.eq_iff_iff.2 hbreak

/-- **The mask has the line breaks of its text exactly if no literal splices two lines**, and exactly then it has as many
    lines, each with the same bounds. A line break of the mask is always one of the text. -/
theorem mask_keeps_line_breaks_iff (t : List Char) :
    (∀ i : Nat, (mask t)[i]? = some '\n' → t[i]? = some '\n') ∧
    ((∀ i : Nat, (mask t)[i]? = some '\n' ↔ t[i]? = some '\n') ↔ ¬ SplicesLines t) ∧
    ((Text.lines (mask t)).map List.length = (Text.lines t).map List.length ↔ ¬ SplicesLines t) := by
  have hlen := (mask_kept t).length_eq
  refine ⟨fun i hi => ?_, ?_, ?_⟩
  · rcases kept_getElem? (mask_kept t) i with h | h
    · rw [← h, hi]
    · simp [hi] at h
  · rw [← breakMarks_eq_iff hlen, breakMarks_mask_iff]
  · rw [Text.map_length_lines_eq_iff hlen]
    exact breakMarks_mask_iff t

/-- A text of two lines, whose mask has one: a line break behind a backslash is part of the literal around it. -/
theorem mask_spliced_literal :
    ¬ ((mask "\"\\\n\"".toList)[2]? = some '\n' ↔ "\"\\\n\"".toList[2]? = some '\n') ∧
    (Text.lines (mask "\"\\\n\"".toList)).length = 1 ∧ (Text.lines "\"\\\n\"".toList).length = 2 := by
  have hsplit : splitLiteral? '"' ['\\', '\n', '"'] = some (['\\', '\n'], []) := by
    rw [splitLiteral?_escape, splitLiteral?_cons _ (by decide), if_pos (by decide)]
    rfl
  have hmask : mask "\"\\\n\"".toList = "\"  \"".toList := by
    show mask ('"' :: ['\\', '\n', '"']) = _
    rw [mask_cons, leadingPiece_literal (by decide) hsplit, mask_nil]
    decide
  rw [hmask]
  decide

end SpringAtlas.Source
