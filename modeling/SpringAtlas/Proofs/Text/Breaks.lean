import SpringAtlas.Proofs.Text.Lines

/-!
# `Proofs.Text.Breaks` — a text falls into lines at its breaks

There are eleven line breaks. Ten of them are single characters; the eleventh is a carriage return with the newline behind
it, which is one break and not two. `CutsInto` says what the lines of a text are without saying how they are found: each
line is free of breaks and has a break behind it, a carriage return is never torn from its newline, and only the last line
may go without a break, if it is not empty.

Every text has exactly one list of lines (`cutsInto_iff`), and behind a newline the lines of what follows begin afresh
(`splitLines_append_of_endsLine`).

## Contents
* `lineBreaks`, `CutsInto` — breaks, and the lines between them
* `cutsInto_iff` — the lines of a text
* `EndsLine`, `CutsInto.append` — a text behind a newline
-/

namespace SpringAtlas.Text

/-! ## Breaks -/

/-- The line breaks as they are written. -/
def lineBreaks : List (List Char) :=
  [['\n'], ['\r'], ['\r', '\n'], ['\x0b'], ['\x0c'], ['\x1c'], ['\x1d'], ['\x1e'], ['\x85'], ['\u2028'], ['\u2029']]

theorem isLineBreak_iff {c : Char} : isLineBreak c ↔ [c] ∈ lineBreaks := by
  unfold isLineBreak
  simp only [lineBreaks, List.mem_cons, List.cons.injEq, and_true, List.not_mem_nil, or_false, ← Char.toNat_inj,
    Bool.or_eq_true, Bool.and_eq_true, decide_eq_true_eq, beq_iff_eq, reduceCtorEq, and_false, false_or,
    Char.reduceToNat]
  omega

/-- The lines of a text, without their breaks. -/
inductive CutsInto : List Char → List (List Char) → Prop
  | nil : CutsInto [] []
  | last {l : List Char} (hne : l ≠ []) (hl : ∀ c ∈ l, [c] ∉ lineBreaks) : CutsInto l [l]
  | line {l br rest : List Char} {ls : List (List Char)} (hl : ∀ c ∈ l, [c] ∉ lineBreaks) (hbr : br ∈ lineBreaks)
      (hwhole : br = ['\r'] → rest.head? ≠ some '\n') (h : CutsInto rest ls) : CutsInto (l ++ (br ++ rest)) (l :: ls)

theorem splitLines_cons_break {c : Char} {rest : List Char} (hc : isLineBreak c)
    (hwhole : c = '\r' → rest.head? ≠ some '\n') : splitLines (c :: rest) = [] :: splitLines rest := by
  rw [splitLines, if_pos hc]
  rintro cs rfl rfl
  exact hwhole rfl rfl

theorem splitLines_break {br rest : List Char} (hbr : br ∈ lineBreaks)
    (hwhole : br = ['\r'] → rest.head? ≠ some '\n') : splitLines (br ++ rest) = [] :: splitLines rest := by
  by_cases hpair : br = ['\r', '\n']
  · subst hpair
    rfl
  · obtain ⟨c, rfl⟩ : ∃ c, br = [c] := by
      simp only [lineBreaks, List.mem_cons, List.not_mem_nil, or_false] at hbr
      rcases hbr with h | h | h | h | h | h | h | h | h | h | h
      all_goals first | exact ⟨_, h⟩ | exact absurd h hpair
    show splitLines (c :: rest) = _
    apply splitLines_cons_break (isLineBreak_iff.2 hbr)
    rintro rfl
    exact hwhole rfl

/-! ## The lines of a text -/

theorem isLineBreak_eq_false_iff {c : Char} : isLineBreak c = false ↔ [c] ∉ lineBreaks := by
  rw [← isLineBreak_iff, Bool.not_eq_true]

/-- A character that is no break belongs to the line behind it. -/
theorem CutsInto.consHead {c : Char} {cs : List Char} {ls : List (List Char)} (hc : [c] ∉ lineBreaks)
    (h : CutsInto cs ls) : CutsInto (c :: cs) (consHead c ls) := by
  have hcons : ∀ {l : List Char}, (∀ d ∈ l, [d] ∉ lineBreaks) → ∀ d ∈ c :: l, [d] ∉ lineBreaks := by
    intro l hl d hd
    rcases List.mem_cons.1 hd with rfl | hd
    · exact hc
    · exact hl d hd
  cases h with
  | nil =>
    show CutsInto [c] [[c]]
    exact .last (List.cons_ne_nil c []) (hcons (by simp))
  | last hne hl => exact .last (List.cons_ne_nil c _) (hcons hl)
  | line hl hbr hwhole h => exact .line (hcons hl) hbr hwhole h

/-- The lines that are split off cut the text. -/
theorem cutsInto_splitLines (text : List Char) : CutsInto text (splitLines text) := by
  fun_induction splitLines text with
  | case1 => exact .nil
  | case2 cs ih =>
    show CutsInto ([] ++ (['\r', '\n'] ++ cs)) _
    exact .line (by simp) (by decide) (by simp) ih
  | case3 c cs hpair hc ih =>
    show CutsInto ([] ++ ([c] ++ cs)) _
    refine .line (by simp) (isLineBreak_iff.1 hc) (fun hr hnewline => ?_) ih
    -- the carriage return would have been read with its newline
    obtain rfl : c = '\r' := by simpa using hr
    obtain ⟨cs', rfl⟩ := List.head?_eq_some_iff.1 hnewline
    exact hpair cs' rfl rfl
  | case4 c cs _ hc ih => exact ih.consHead fun h => hc (isLineBreak_iff.2 h)

/-- Lines that cut a text are the ones that are split off. -/
theorem CutsInto.eq_splitLines {text : List Char} {ls : List (List Char)} (h : CutsInto text ls) :
    ls = splitLines text := by
  induction h with
  | nil => rfl
  | last hne hl => rw [splitLines_of_forall (fun c hc => isLineBreak_eq_false_iff.2 (hl c hc)) hne]
  | @line l br rest ls hl hbr hwhole _ ih =>
    induction l with
    | nil => rw [List.nil_append, splitLines_break hbr hwhole, ih]
    | cons c l ihl =>
      rw [List.cons_append, splitLines_cons (isLineBreak_eq_false_iff.2 (hl c List.mem_cons_self)),
        ← ihl fun d hd => hl d (List.mem_cons_of_mem _ hd)]
      rfl

/-- **A text has exactly one list of lines.** -/
theorem cutsInto_iff {text : List Char} {ls : List (List Char)} : CutsInto text ls ↔ ls = splitLines text := by
  constructor
  · exact CutsInto.eq_splitLines
  · rintro rfl
    exact cutsInto_splitLines text

/-! ## Behind a newline -/

/-- No line of the text goes on behind it: the text is empty or ends with a newline. -/
def EndsLine (text : List Char) : Prop :=
  text = [] ∨ text.getLast? = some '\n'

theorem EndsLine.of_append {xs rest : List Char} (h : EndsLine (xs ++ rest)) (hne : rest ≠ []) : EndsLine rest := by
  rcases h with h | h
  · exact absurd (List.append_eq_nil_iff.1 h).2 hne
  · right
    obtain ⟨c, cs, rfl⟩ := List.exists_cons_of_ne_nil hne
    rwa [List.getLast?_append, List.getLast?_cons, Option.some_or, ← List.getLast?_cons] at h

/-- **Behind a newline the lines begin afresh.** -/
theorem CutsInto.append {a b : List Char} {ls ms : List (List Char)} (ha : CutsInto a ls) (hend : EndsLine a)
    (hb : CutsInto b ms) : CutsInto (a ++ b) (ls ++ ms) := by
  induction ha with
  | nil => exact hb
  | @last l hne hl =>
    -- a line without a break does not end with a newline
    have hlast : l.getLast? = some '\n' := hend.resolve_left hne
    exact absurd (by decide) (hl '\n' (List.mem_of_getLast? hlast))
  | @line l br rest ls hl hbr hwhole _ ih =>
    rw [List.append_assoc, List.append_assoc]
    by_cases hrest : rest = []
    · subst hrest
      refine .line hl hbr (fun hr => ?_) (ih (Or.inl rfl))
      -- the text ends with this break, which is therefore no lone carriage return
      subst hr
      have hlast := hend.resolve_left (by simp)
      simp at hlast
    · have hwholeEnd : EndsLine ((l ++ br) ++ rest) := by rwa [List.append_assoc]
      have hrestEnd : EndsLine rest := hwholeEnd.of_append hrest
      refine .line hl hbr (fun hr => ?_) (ih hrestEnd)
      obtain ⟨c, cs, rfl⟩ := List.exists_cons_of_ne_nil hrest
      exact hwhole hr

/-- Behind a text that ends its line, a new line starts. -/
theorem splitLines_append_of_endsLine {a : List Char} (h : EndsLine a) (b : List Char) :
    splitLines (a ++ b) = splitLines a ++ splitLines b :=
  ((cutsInto_splitLines a).append h (cutsInto_splitLines b)).eq_splitLines.symm

end SpringAtlas.Text
