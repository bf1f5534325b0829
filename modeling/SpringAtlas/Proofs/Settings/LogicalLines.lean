import SpringAtlas.Proofs.Settings.Continuation

/-!
# `Proofs.Settings.LogicalLines` — which logical lines of a properties file count

A logical line is opened by a physical line that is neither blank nor a comment, where no part of another one is open, and
it takes in the lines behind it as long as each goes on. The reader records it when a line comes that does not go on. Two
kinds of logical lines never get there: the last one of a file that ends before the line does, and one that is opened by
nothing but a backslash, of which nothing is open behind its first line. All others are recorded, and nothing else is
(`mem_logicalLines_iff`); so the keys of a file are exactly those of the logical lines that are kept.

The proof follows the reader: behind an open part the next recorded line starts with that part (`logicalLines_of_open`),
and conversely a recorded line either continues what was open at first or was opened later on (`opened_of_mem`).

## Contents
* `lineKey`, `mem_keys_parseProperties` — the keys of a file
* `assemble`, `isCutOff` — the logical line that a physical line opens
* `Opening`, `Opening.IsKept`, `mem_logicalLines_iff` — exactly which logical lines are recorded
* `KeepsLines`, `keepsLines_iff` — exactly which files lose no key
-/

namespace SpringAtlas.Settings

/-! ## Keys -/

/-- The key that a logical line defines. -/
def lineKey (line : List Char) : String :=
  String.ofList (entryOf line).1

theorem mem_keys_setDefault (es : Entries) (k v key : String) :
    key ∈ (es.setDefault k v).map Prod.fst ↔ key ∈ es.map Prod.fst ∨ k = key := by
  unfold Entries.setDefault
  split
  · next htaken =>
    -- a key that is taken is there already
    obtain ⟨w, hw⟩ := Option.isSome_iff_exists.1 htaken
    obtain ⟨before, after, hes, -⟩ := List.lookup_eq_some_iff.1 hw
    constructor
    · intro h
      exact Or.inl h
    · rintro (h | rfl)
      · exact h
      · rw [hes]
        simp
  · simp [eq_comm]

/-- The keys of a file are those of its logical lines. -/
theorem mem_keys_parseProperties {text : List Char} {key : String} :
    key ∈ (parseProperties text).map Prod.fst ↔
      ∃ line ∈ logicalLines [] (Text.splitLines text), lineKey line = key := by
  have hfold (ls : List (List Char)) (es : Entries) :
      key ∈ (ls.foldl (fun es line => es.setDefault (lineKey line) (String.ofList (entryOf line).2)) es).map Prod.fst ↔
        key ∈ es.map Prod.fst ∨ ∃ line ∈ ls, lineKey line = key := by
    induction ls generalizing es with
    | nil => simp
    | cons line ls ih =>
      rw [List.foldl_cons, ih, mem_keys_setDefault, or_assoc]
      simp only [List.mem_cons, exists_eq_or_imp]
  exact (hfold (logicalLines [] (Text.splitLines text)) []).trans (by simp)

/-! ## Logical lines -/

/-- The logical line that starts with `line`: as long as a line goes on, the next one is taken in without its backslash. -/
def assemble (line : List Char) : List (List Char) → List Char
  | [] => if continues line then line.dropLast else line
  | raw :: rest => if continues line then line.dropLast ++ assemble (Text.trimStart raw) rest else line

/-- Whether a file ends before the logical line that starts with `line`: this line and all behind it go on. -/
def isCutOff (line : List Char) (rest : List (List Char)) : Bool :=
  continues line && rest.all fun raw => continues (Text.trimStart raw)

theorem assemble_of_not_continues {line : List Char} (h : ¬ continues line) (rest : List (List Char)) :
    assemble line rest = line := by
  cases rest <;> rw [assemble, if_neg h]

theorem assemble_of_continues {line : List Char} (h : continues line) (raw : List Char) (rest : List (List Char)) :
    assemble line (raw :: rest) = line.dropLast ++ assemble (Text.trimStart raw) rest := by
  rw [assemble, if_pos h]

theorem isCutOff_of_not_continues {line : List Char} (h : ¬ continues line) (rest : List (List Char)) :
    isCutOff line rest = false := by
  rw [isCutOff, Bool.eq_false_iff.2 h, Bool.false_and]

theorem isCutOff_of_continues {line : List Char} (h : continues line) (raw : List Char) (rest : List (List Char)) :
    isCutOff line (raw :: rest) = isCutOff (Text.trimStart raw) rest := by
  rw [isCutOff, h, Bool.true_and, List.all_cons, isCutOff]

section Open

variable {pending raw : List Char}

theorem isPassedOver_of_ne_nil (h : pending ≠ []) (raw : List Char) : isPassedOver pending raw = false := by
  rw [isPassedOver, List.isEmpty_eq_false_iff.2 h, Bool.false_and]

theorem isPassedOver_nil_eq_false_iff :
    isPassedOver [] raw = false ↔ Text.trim raw ≠ [] ∧ isComment (Text.trim raw) = false := by
  simp [isPassedOver, readAs]

/-- **Behind an open part** the first logical line that is recorded starts with this part. -/
theorem logicalLines_of_open (hopen : pending ≠ []) {rest : List (List Char)}
    (hend : isCutOff (Text.trimStart raw) rest = false) :
    ∃ more, logicalLines pending (raw :: rest) = (pending ++ assemble (Text.trimStart raw) rest) :: more := by
  induction rest generalizing pending raw with
  | nil =>
    have hgoes : ¬ continues (Text.trimStart raw) := by
      intro h
      simp [isCutOff, h] at hend
    rw [logicalLines_cons, isPassedOver_of_ne_nil hopen, readAs_of_ne_nil hopen, assemble_of_not_continues hgoes,
      Bool.false_or, if_neg hgoes]
    exact ⟨_, rfl⟩
  | cons next rest ih =>
    rw [logicalLines_cons, isPassedOver_of_ne_nil hopen, readAs_of_ne_nil hopen, Bool.false_or]
    by_cases hgoes : continues (Text.trimStart raw) = true
    · -- the part that is open has grown, and the next line goes on with it
      have hafter : openAfter pending raw = pending ++ (Text.trimStart raw).dropLast := by
        rw [openAfter, isPassedOver_of_ne_nil hopen, readAs_of_ne_nil hopen, if_neg Bool.false_ne_true, if_pos hgoes]
      rw [isCutOff_of_continues hgoes] at hend
      obtain ⟨more, hmore⟩ := ih (List.append_ne_nil_of_left_ne_nil hopen _) hend
      rw [if_pos hgoes, hafter, hmore, assemble_of_continues hgoes, List.append_assoc]
      exact ⟨more, rfl⟩
    · rw [if_neg hgoes, assemble_of_not_continues hgoes]
      exact ⟨_, rfl⟩

end Open

/-! ## Where logical lines are opened -/

/-- A logical line is opened in `ls` and kept: where nothing is open any more, a line that is neither blank nor a comment
    nor a lone backslash starts it, and the lines do not end before it. -/
def OpenedIn (pending : List Char) (ls : List (List Char)) (line : List Char) : Prop :=
  ∃ before raw rest, ls = before ++ raw :: rest ∧ before.foldl openAfter pending = [] ∧
    isPassedOver [] raw = false ∧ isCutOff (Text.trim raw) rest = false ∧ Text.trim raw ≠ ['\\'] ∧
    line = assemble (Text.trim raw) rest

/-- What is opened behind a line is opened among the lines. -/
theorem OpenedIn.cons {pending raw line : List Char} {ls : List (List Char)} (h : OpenedIn (openAfter pending raw) ls line) :
    OpenedIn pending (raw :: ls) line := by
  obtain ⟨before, raw', rest, rfl, hclosed, hmore⟩ := h
  exact ⟨raw :: before, raw', rest, rfl, hclosed, hmore⟩

/-- **Every logical line has an origin**: it goes on with what is open in front of the lines, or it is opened among them. -/
theorem opened_of_mem {pending line : List Char} {ls : List (List Char)} (h : line ∈ logicalLines pending ls) :
    (pending ≠ [] ∧ ∃ raw rest, ls = raw :: rest ∧ isCutOff (Text.trimStart raw) rest = false ∧
      line = pending ++ assemble (Text.trimStart raw) rest) ∨ OpenedIn pending ls line := by
  induction ls generalizing pending with
  | nil => cases h
  | cons raw ls ih =>
    rw [logicalLines_cons, List.mem_append] at h
    rcases h with h | h
    · -- the line is completed here
      by_cases hskip : (isPassedOver pending raw || continues (readAs pending raw)) = true
      · rw [if_pos hskip] at h
        cases h
      rw [if_neg hskip, List.mem_singleton] at h
      simp only [Bool.or_eq_true, not_or, Bool.not_eq_true] at hskip
      obtain ⟨hpassed, hstops⟩ := hskip
      rw [← Bool.not_eq_true] at hstops
      by_cases hopen : pending = []
      · subst hopen
        refine Or.inr ⟨[], raw, ls, rfl, rfl, hpassed, isCutOff_of_not_continues hstops ls, ?_, ?_⟩
        · intro hlone
          rw [readAs_nil, hlone] at hstops
          exact hstops (by decide)
        · rw [h, ← readAs_nil, assemble_of_not_continues hstops]
          rfl
      · rw [readAs_of_ne_nil hopen] at h hstops
        refine Or.inl ⟨hopen, raw, ls, rfl, isCutOff_of_not_continues hstops ls, ?_⟩
        rw [h, assemble_of_not_continues hstops]
    · rcases ih h with ⟨hafter, next, rest, rfl, hend, hline⟩ | hopened
      · -- the line goes on with what is open behind `raw`
        obtain ⟨hpassed, hgoes, heq⟩ := openAfter_of_ne_nil hafter
        rw [heq, List.append_assoc, ← assemble_of_continues hgoes] at hline
        rw [← isCutOff_of_continues hgoes] at hend
        by_cases hopen : pending = []
        · subst hopen
          refine Or.inr ⟨[], raw, next :: rest, rfl, rfl, hpassed, hend, ?_, hline⟩
          intro hlone
          rw [heq, readAs_nil, hlone] at hafter
          exact hafter rfl
        · rw [readAs_of_ne_nil hopen] at hend hline
          exact Or.inl ⟨hopen, raw, next :: rest, rfl, hend, hline⟩
      · exact Or.inr hopened.cons

/-! ## The logical lines of a file -/

/-- A logical line of a text, given by the physical line that opens it. -/
structure Opening (text : List Char) where
  before : List (List Char)
  raw : List Char
  rest : List (List Char)
  lines_eq : Text.splitLines text = before ++ raw :: rest
  closed : openLine before = []
  nonblank : Text.trim raw ≠ []
  uncommented : isComment (Text.trim raw) = false

namespace Opening

variable {text : List Char}

/-- The physical lines of a logical line put together. -/
def line (o : Opening text) : List Char :=
  assemble (Text.trim o.raw) o.rest

def key (o : Opening text) : String :=
  lineKey o.line

/-- The file does not end before the logical line does, and more than a backslash opens it. -/
structure IsKept (o : Opening text) : Prop where
  completed : isCutOff (Text.trim o.raw) o.rest = false
  opened : Text.trim o.raw ≠ ['\\']

end Opening

/-- **Exactly which logical lines are recorded**: those that are kept. -/
theorem mem_logicalLines_iff {text line : List Char} :
    line ∈ logicalLines [] (Text.splitLines text) ↔ ∃ o : Opening text, o.IsKept ∧ o.line = line := by
  constructor
  · intro h
    obtain ⟨hopen, -⟩ | ⟨before, raw, rest, hlines, hclosed, hpassed, hend, hlone, hline⟩ := opened_of_mem h
    · exact absurd rfl hopen
    · obtain ⟨hblank, hcomment⟩ := isPassedOver_nil_eq_false_iff.1 hpassed
      exact ⟨⟨before, raw, rest, hlines, hclosed, hblank, hcomment⟩, ⟨hend, hlone⟩, hline.symm⟩
  · rintro ⟨o, hkept, rfl⟩
    have hpassed := isPassedOver_nil_eq_false_iff.2 ⟨o.nonblank, o.uncommented⟩
    rw [o.lines_eq, logicalLines_append]
    apply List.mem_append_right
    show o.line ∈ logicalLines (openLine o.before) (o.raw :: o.rest)
    rw [o.closed, logicalLines_cons, hpassed, readAs_nil, Bool.false_or, Opening.line]
    by_cases hgoes : continues (Text.trim o.raw) = true
    · have hend := hkept.completed
      cases hrest : o.rest with
      | nil =>
        rw [hrest, isCutOff, hgoes] at hend
        cases hend
      | cons next rest =>
        have hafter : openAfter [] o.raw = (Text.trim o.raw).dropLast := by
          rw [openAfter, hpassed, readAs_nil, if_neg Bool.false_ne_true, if_pos hgoes, List.nil_append]
        have hopen : (Text.trim o.raw).dropLast ≠ [] := by
          intro hempty
          apply hkept.opened
          rw [eq_concat_of_continues hgoes, hempty]
          rfl
        rw [hrest, isCutOff_of_continues hgoes] at hend
        obtain ⟨more, hmore⟩ := logicalLines_of_open hopen hend
        rw [if_pos hgoes, hafter, hmore, assemble_of_continues hgoes]
        exact List.mem_cons_self
    · rw [if_neg hgoes, assemble_of_not_continues hgoes]
      exact List.mem_append_left _ List.mem_cons_self

/-! ## Files that lose no key -/

/-- Every logical line of a text, from the line that opens it on, has its key in the result. -/
def KeepsLines (text : List Char) : Prop :=
  ∀ o : Opening text, o.key ∈ (parseProperties text).map Prod.fst

/-- **Exactly which files lose no key**: those where a logical line that is not kept has the key of one that is. The keys
    of a file are those of the logical lines that are kept. -/
theorem keepsLines_iff (text : List Char) :
    (∀ key, key ∈ (parseProperties text).map Prod.fst ↔ ∃ o : Opening text, o.IsKept ∧ o.key = key) ∧
    (KeepsLines text ↔ ∀ o : Opening text, ¬ o.IsKept → ∃ o' : Opening text, o'.IsKept ∧ o'.key = o.key) := by
  have hkeys : ∀ key, key ∈ (parseProperties text).map Prod.fst ↔ ∃ o : Opening text, o.IsKept ∧ o.key = key := by
    intro key
    rw [mem_keys_parseProperties]
    constructor
    · rintro ⟨line, hline, rfl⟩
      obtain ⟨o, hkept, rfl⟩ := mem_logicalLines_iff.1 hline
      exact ⟨o, hkept, rfl⟩
    · rintro ⟨o, hkept, rfl⟩
      exact ⟨o.line, mem_logicalLines_iff.2 ⟨o, hkept, rfl⟩, rfl⟩
  refine ⟨hkeys, ?_⟩
  constructor
  · intro h o _
    exact (hkeys o.key).1 (h o)
  · intro h o
    by_cases hkept : o.IsKept
    · exact (hkeys o.key).2 ⟨o, hkept, rfl⟩
    · exact (hkeys o.key).2 (h o hkept)

/-- **A property on the last line is lost** if the line goes on. -/
theorem not_keepsLines_cutOff :
    ¬ KeepsLines "a=1\\".toList ∧ parseProperties "a=1\\".toList = [] := by
  refine ⟨?_, by decide⟩
  intro h
  have hkey := h ⟨[], "a=1\\".toList, [], by decide, rfl, by decide, by decide⟩
  rw [show parseProperties "a=1\\".toList = [] by decide] at hkey
  cases hkey

end SpringAtlas.Settings
