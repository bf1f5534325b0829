import SpringAtlas.Proofs.Text.Blank
import SpringAtlas.Settings.Properties

/-!
# `Proofs.Settings.Continuation` — which lines of a properties file go on

A properties file is read line by line, and the state of the reader is the part of a logical line that is still open.
What a physical line does to it is one step, `openAfter`; the logical lines of a file are what the steps end one after
another, so a file may be cut between any two lines as long as the open part is handed on (`logicalLines_append`).

In a properties file a backslash at the end of a line continues it unless it is itself escaped, and that depends on the
whole run of backslashes at the end: the line goes on if the run is odd. The reader decides by the last two characters, so
for it a run of exactly one goes on. The two agree up to runs of two; a run of three or five ends the line although its
last backslash is free. There is a second gap: a line that is nothing but a backslash leaves an empty part open, which the
reader cannot tell from no open part at all.

## Contents
* `readAs`, `isPassedOver`, `openAfter`, `openLine` — the reader as steps
* `logicalLines_cons`, `logicalLines_append` — the logical lines along the steps
* `slashRun`, `continues_iff`, `slashRun_trimStart` — backslashes at the end of a line
* `JoinsNext`, `joinsNext_iff` — exactly which lines are joined with the next one
* `FollowsFormat`, `followsFormat_iff` — exactly which files are joined as the format says
-/

namespace SpringAtlas.Settings

/-! ## The reader as steps -/

/-- A physical line as it is read behind an open part. Blanks at its end go only where no part is open. -/
def readAs (pending raw : List Char) : List Char :=
  if pending.isEmpty then Text.trim raw else Text.trimStart raw

/-- Whether a physical line is blank or a comment, which it can be only where no part is open. -/
def isPassedOver (pending raw : List Char) : Bool :=
  pending.isEmpty && ((readAs pending raw).isEmpty || isComment (readAs pending raw))

/-- What is open behind a physical line. -/
def openAfter (pending raw : List Char) : List Char :=
  if isPassedOver pending raw then []
  else if continues (readAs pending raw) then pending ++ (readAs pending raw).dropLast
  else []

/-- What is open behind some physical lines. -/
def openLine (ls : List (List Char)) : List Char :=
  ls.foldl openAfter []

/-- **One step of the reader**: a line that is read and does not go on ends a logical line. -/
theorem logicalLines_cons (pending raw : List Char) (rest : List (List Char)) :
    logicalLines pending (raw :: rest) =
      (if isPassedOver pending raw || continues (readAs pending raw) then [] else [pending ++ readAs pending raw]) ++
        logicalLines (openAfter pending raw) rest := by
  show (if isPassedOver pending raw then logicalLines [] rest
    else if continues (readAs pending raw) then logicalLines (pending ++ (readAs pending raw).dropLast) rest
    else (pending ++ readAs pending raw) :: logicalLines [] rest) = _
  unfold openAfter
  by_cases hpassed : isPassedOver pending raw = true
  · simp only [hpassed, if_true, Bool.true_or, List.nil_append]
  · by_cases hgoes : continues (readAs pending raw) = true
    · simp only [hpassed, hgoes, Bool.false_eq_true, if_false, if_true, Bool.or_true, List.nil_append]
    · simp only [hpassed, hgoes, Bool.false_eq_true, if_false, Bool.or_self, List.singleton_append]

/-- **A file may be cut between two lines**, with what is open there handed on. -/
theorem logicalLines_append (pending : List Char) (ls more : List (List Char)) :
    logicalLines pending (ls ++ more) = logicalLines pending ls ++ logicalLines (ls.foldl openAfter pending) more := by
  induction ls generalizing pending with
  | nil => rfl
  | cons raw ls ih =>
    rw [List.cons_append, logicalLines_cons, logicalLines_cons pending raw ls, ih, List.foldl_cons, List.append_assoc]

/-- A part that is open behind a line is what was open in front of it and the line without its backslash. -/
theorem openAfter_of_ne_nil {pending raw : List Char} (h : openAfter pending raw ≠ []) :
    isPassedOver pending raw = false ∧ continues (readAs pending raw) ∧
      openAfter pending raw = pending ++ (readAs pending raw).dropLast := by
  unfold openAfter at h ⊢
  by_cases hpassed : isPassedOver pending raw = true
  · rw [if_pos hpassed] at h
    exact absurd rfl h
  rw [if_neg hpassed] at h ⊢
  by_cases hgoes : continues (readAs pending raw) = true
  · rw [if_pos hgoes]
    exact ⟨Bool.eq_false_iff.2 hpassed, hgoes, rfl⟩
  · rw [if_neg hgoes] at h
    exact absurd rfl h

theorem openLine_concat (before : List (List Char)) (raw : List Char) :
    openLine (before ++ [raw]) = openAfter (openLine before) raw := by
  rw [openLine, List.foldl_append]
  rfl

/-! ## Backslashes at the end of a line -/

/-- The number of backslashes at the end of a line. -/
def slashRun (line : List Char) : Nat :=
  (line.reverse.takeWhile (· == '\\')).length

theorem endsWith_replicate_iff (n : Nat) (line : List Char) :
    Text.endsWith (List.replicate n '\\') line ↔ n ≤ slashRun line := by
  rw [Text.endsWith, List.isSuffixOf_iff_suffix, ← List.reverse_prefix, List.reverse_replicate, slashRun]
  -- a run at the front is read off one character at a time
  induction line.reverse generalizing n with
  | nil => simp
  | cons c cs ih =>
    cases n with
    | zero => simp
    | succ n =>
      rw [List.replicate_succ, List.cons_prefix_cons, ih]
      by_cases hc : c = '\\'
      · simp [hc]
      · have hne : ¬ '\\' = c := fun he => hc he.symm
        simp [hc, hne]

/-- A line goes on for the reader if it ends in exactly one backslash. -/
theorem continues_iff {line : List Char} : continues line ↔ slashRun line = 1 := by
  have hone : Text.endsWith ['\\'] line = true ↔ 1 ≤ slashRun line := endsWith_replicate_iff 1 line
  have htwo : Text.endsWith ['\\', '\\'] line = true ↔ 2 ≤ slashRun line := endsWith_replicate_iff 2 line
  rw [continues, Bool.and_eq_true, Bool.not_eq_true', ← Bool.not_eq_true, hone, htwo]
  omega

/-- A line that goes on is its text with a backslash behind it. -/
theorem eq_concat_of_continues {line : List Char} (h : continues line) : line = line.dropLast ++ ['\\'] := by
  rw [continues, Bool.and_eq_true, Text.endsWith, List.isSuffixOf_iff_suffix] at h
  obtain ⟨pre, rfl⟩ := h.1
  rw [List.dropLast_concat]

theorem slashRun_cons_of_ne {c : Char} (hc : c ≠ '\\') (cs : List Char) : slashRun (c :: cs) = slashRun cs := by
  have hstop : [c].takeWhile (· == '\\') = [] := List.takeWhile_cons_of_neg (by simpa using hc)
  rw [slashRun, slashRun, List.reverse_cons, List.takeWhile_append, hstop, List.append_nil]
  split
  · next hall => exact hall.symm
  · rfl

/-- Blanks in front of a line do not matter for the backslashes at its end. -/
theorem slashRun_trimStart (raw : List Char) : slashRun (Text.trimStart raw) = slashRun raw := by
  induction raw with
  | nil => rfl
  | cons c cs ih =>
    rw [Text.trimStart, List.dropWhile_cons]
    split
    · next hblank =>
      rw [slashRun_cons_of_ne (Text.ne_of_isBlank hblank (by decide))]
      exact ih
    · rfl

/-! ## Lines that are joined -/

section Joined

variable {before : List (List Char)} {raw : List Char}

/-- A physical line belongs to a logical line: it continues one, or it opens one because it is neither blank nor a
    comment. -/
def IsRead (before : List (List Char)) (raw : List Char) : Prop :=
  openLine before ≠ [] ∨ (Text.trim raw ≠ [] ∧ isComment (Text.trim raw) = false)

/-- A physical line is joined with the next one: a part of a logical line is open behind it, and the next line is read as
    what continues this part. -/
def JoinsNext (before : List (List Char)) (raw : List Char) : Prop :=
  openLine (before ++ [raw]) ≠ []

/-- A line that opens a logical line is trimmed on both sides. -/
theorem readAs_nil (raw : List Char) : readAs [] raw = Text.trim raw := rfl

/-- A line that continues a logical line is trimmed only in front. -/
theorem readAs_of_ne_nil {pending : List Char} (h : pending ≠ []) (raw : List Char) :
    readAs pending raw = Text.trimStart raw := by
  rw [readAs, if_neg (by simpa using h)]

theorem trim_of_getLast? (h : raw.getLast?.any Text.isBlank = false) : Text.trim raw = Text.trimStart raw := by
  rw [Text.trim, Text.trimWhere, Text.trimStart]
  apply Text.dropEndWhile_of_getLast?
  rw [← List.takeWhile_append_dropWhile (p := Text.isBlank) (l := raw), List.getLast?_append] at h
  cases hlast : (raw.dropWhile Text.isBlank).getLast? with
  | none => rfl
  | some c =>
    rw [hlast] at h
    exact h

/-- Without blanks at its end a line is read alike whether it opens a logical line or continues one. -/
theorem readAs_of_getLast? (h : raw.getLast?.any Text.isBlank = false) (pending : List Char) :
    readAs pending raw = Text.trimStart raw := by
  by_cases hp : pending = []
  · rw [hp, readAs_nil, trim_of_getLast? h]
  · exact readAs_of_ne_nil hp raw

theorem isRead_iff : IsRead before raw ↔ isPassedOver (openLine before) raw = false := by
  by_cases hopen : openLine before = []
  · simp [IsRead, isPassedOver, readAs, hopen]
  · simp [IsRead, isPassedOver, hopen]

/-- **Exactly which lines are joined with the next one**: those that end in one backslash and leave something of the
    logical line open in front of it. -/
theorem joinsNext_iff (hread : IsRead before raw) (hend : raw.getLast?.any Text.isBlank = false) :
    JoinsNext before raw ↔ slashRun raw = 1 ∧ (openLine before ≠ [] ∨ Text.trim raw ≠ ['\\']) := by
  rw [JoinsNext, openLine_concat, openAfter, if_neg (by simp [isRead_iff.1 hread]), readAs_of_getLast? hend,
    trim_of_getLast? hend, ← slashRun_trimStart raw, ← continues_iff]
  by_cases hgoes : continues (Text.trimStart raw) = true
  · have hlone : (Text.trimStart raw).dropLast = [] ↔ Text.trimStart raw = ['\\'] := by
      constructor
      · intro hempty
        rw [eq_concat_of_continues hgoes, hempty]
        rfl
      · intro hline
        rw [hline]
        rfl
    rw [if_pos hgoes, Ne, List.append_eq_nil_iff, hlone]
    simp only [hgoes, true_and]
    exact Classical.not_and_iff_not_or_not
  · rw [if_neg hgoes]
    simp [hgoes]

/-- **What joining does to the logical lines**: behind a single backslash the next line goes on with what is open, the
    backslash left out; any other end completes a logical line. -/
theorem logicalLines_of_isRead (hread : IsRead before raw) (hend : raw.getLast?.any Text.isBlank = false)
    (rest : List (List Char)) :
    logicalLines [] (before ++ raw :: rest) = logicalLines [] before ++
      if slashRun raw = 1 then logicalLines (openLine before ++ (Text.trimStart raw).dropLast) rest
      else (openLine before ++ Text.trimStart raw) :: logicalLines [] rest := by
  have hpassed := isRead_iff.1 hread
  have hgoes : continues (Text.trimStart raw) = true ↔ slashRun raw = 1 := by
    rw [continues_iff, slashRun_trimStart]
  rw [logicalLines_append]
  show _ ++ logicalLines (openLine before) (raw :: rest) = _
  rw [logicalLines_cons, openAfter, hpassed, readAs_of_getLast? hend, Bool.false_or]
  by_cases hone : slashRun raw = 1
  · rw [if_pos (hgoes.2 hone), if_neg Bool.false_ne_true, if_pos (hgoes.2 hone), if_pos hone, List.nil_append]
  · rw [if_neg (mt hgoes.1 hone), if_neg Bool.false_ne_true, if_neg (mt hgoes.1 hone), if_neg hone]
    rfl

end Joined

/-! ## Files that are joined as the format says -/

/-- The physical line `raw` stands behind `before` in a text, with another line behind it; it belongs to a logical line, and
    no blank ends it. -/
structure JoinPlace (text : List Char) (before : List (List Char)) (raw : List Char) : Prop where
  followed : ∃ next after, Text.splitLines text = before ++ raw :: next :: after
  isRead : IsRead before raw
  unpadded : raw.getLast?.any Text.isBlank = false

/-- The lines of a text are joined as the format says: a line with the next one exactly if it ends in an odd number of
    backslashes. -/
def FollowsFormat (text : List Char) : Prop :=
  ∀ before raw, JoinPlace text before raw → (JoinsNext before raw ↔ slashRun raw % 2 = 1)

/-- **Exactly which files are joined as the format says**: those where each line with an odd number of backslashes at its
    end has a single one, and something else of its logical line in front of it. In every file a single backslash makes
    the next line go on with what is open, and any other end completes a logical line. -/
theorem followsFormat_iff (text : List Char) :
    (FollowsFormat text ↔ ∀ before raw, JoinPlace text before raw → slashRun raw % 2 = 1 →
      slashRun raw = 1 ∧ (openLine before ≠ [] ∨ Text.trim raw ≠ ['\\'])) ∧
    ∀ before raw, JoinPlace text before raw → ∀ rest,
      logicalLines [] (before ++ raw :: rest) = logicalLines [] before ++
        if slashRun raw = 1 then logicalLines (openLine before ++ (Text.trimStart raw).dropLast) rest
        else (openLine before ++ Text.trimStart raw) :: logicalLines [] rest := by
  refine ⟨⟨?_, ?_⟩, ?_⟩
  · intro h before raw hplace hodd
    exact (joinsNext_iff hplace.isRead hplace.unpadded).1 ((h before raw hplace).2 hodd)
  · intro h before raw hplace
    rw [joinsNext_iff hplace.isRead hplace.unpadded]
    constructor
    · rintro ⟨hone, -⟩
      rw [hone]
    · intro hodd
      exact h before raw hplace hodd
  · intro before raw hplace rest
    exact logicalLines_of_isRead hplace.isRead hplace.unpadded rest

/-- A property whose value ends in three backslashes, and another one. -/
def threeSlashes : List Char :=
  "a=x\\\\\\\nb=1\n".toList

/-- **Three backslashes end a line** although the last of them is not escaped. -/
theorem not_followsFormat_threeSlashes :
    ¬ FollowsFormat threeSlashes ∧ parseProperties threeSlashes = [("a", "x\\\\\\"), ("b", "1")] := by
  refine ⟨?_, by decide +kernel⟩
  intro h
  have hplace : JoinPlace threeSlashes [] "a=x\\\\\\".toList :=
    ⟨⟨"b=1".toList, [], by decide⟩, Or.inr ⟨by decide, by decide⟩, by decide⟩
  have hends : openLine ["a=x\\\\\\".toList] = [] := by decide
  exact (h [] _ hplace).2 (by decide) hends

end SpringAtlas.Settings
