import Mathlib.Data.List.TakeWhile
import SpringAtlas.Source.Generics

/-!
# `Proofs.Source.Generics` — generic sections are removed as a whole

Generic sections are removed innermost first, again and again until there are none. `Peels` says what one removal does along
the text: a section goes, or a character stays. It changes nothing exactly if no opening bracket has a closing one behind it
(`stripInnermost_eq_self_iff`).

What is left of a text whose angle brackets are balanced is what stands outside of all of them. `outside?` reads that off in
one pass, with the number of open brackets as its state; it does not change when the innermost sections are removed
(`Peels.outside?_eq`), and a balanced text without a section has no angle bracket at all (`eq_of_noSection`).

## Contents
* `outside?` — the characters outside of all sections
* `Peels`, `peels_stripInnermost` — one removal
* `NoSection`, `stripInnermost_eq_self_iff` — texts that it does not change
* `stripGenerics_eq` — what removing sections leaves of a balanced text
* `StripsTo` — texts that are stripped one by one
-/

namespace SpringAtlas.Source

/-! ## Outside of the sections -/

/-- The characters that stand outside of all sections, where `depth` of them are open; `none` if a section is closed that is
    not open, or one is not closed. -/
def outside? : Nat → List Char → Option (List Char)
  | 0, [] => some []
  | _ + 1, [] => none
  | 0, c :: cs =>
    if c == '<' then outside? 1 cs else if c == '>' then none else (outside? 0 cs).map (c :: ·)
  | depth + 1, c :: cs =>
    if c == '<' then outside? (depth + 2) cs else if c == '>' then outside? depth cs else outside? (depth + 1) cs

theorem outside?_open (depth : Nat) (cs : List Char) : outside? depth ('<' :: cs) = outside? (depth + 1) cs := by
  cases depth <;> rfl

theorem outside?_close (depth : Nat) (cs : List Char) : outside? (depth + 1) ('>' :: cs) = outside? depth cs :=
  rfl

theorem outside?_plain {c : Char} (h : isAngle c = false) (cs : List Char) :
    outside? 0 (c :: cs) = (outside? 0 cs).map (c :: ·) := by
  obtain ⟨hopen, hclose⟩ := Bool.or_eq_false_iff.1 h
  rw [outside?, hopen, if_neg Bool.false_ne_true, hclose, if_neg Bool.false_ne_true]

theorem outside?_inside {c : Char} (h : isAngle c = false) (depth : Nat) (cs : List Char) :
    outside? (depth + 1) (c :: cs) = outside? (depth + 1) cs := by
  obtain ⟨hopen, hclose⟩ := Bool.or_eq_false_iff.1 h
  rw [outside?, hopen, if_neg Bool.false_ne_true, hclose, if_neg Bool.false_ne_true]

/-- A character opens a section, closes one, or is no angle. -/
theorem angle_cases (c : Char) : c = '<' ∨ c = '>' ∨ isAngle c = false := by
  by_cases hopen : c = '<'
  · exact Or.inl hopen
  · by_cases hclose : c = '>'
    · exact Or.inr (Or.inl hclose)
    · exact Or.inr (Or.inr (by simp [isAngle, hopen, hclose]))

/-- What follows the first character of a balanced text is balanced at the depth behind that character, whatever the
    number of sections around both. -/
theorem outside?_tail {c : Char} {cs ds : List Char} {depth : Nat} (h : outside? depth (c :: cs) = some ds) :
    ∃ depth' ds', outside? depth' cs = some ds' ∧ ∀ (more : Nat) (rest : List Char),
      outside? (depth + more + 1) (c :: rest) = outside? (depth' + more + 1) rest := by
  rcases angle_cases c with rfl | rfl | hc
  · rw [outside?_open] at h
    refine ⟨depth + 1, ds, h, fun more rest => ?_⟩
    rw [outside?_open, Nat.add_right_comm depth 1 more]
  · cases depth with
    | zero => cases h
    | succ depth =>
      rw [outside?_close] at h
      refine ⟨depth, ds, h, fun more rest => ?_⟩
      rw [outside?_close, Nat.add_right_comm depth 1 more]
  · have hpass (more : Nat) (rest : List Char) := outside?_inside hc (depth + more) rest
    cases depth with
    | zero =>
      rw [outside?_plain hc] at h
      obtain ⟨ds', h', -⟩ := Option.map_eq_some_iff.1 h
      exact ⟨0, ds', h', hpass⟩
    | succ depth =>
      rw [outside?_inside hc] at h
      exact ⟨depth + 1, ds, h, hpass⟩

/-- A balanced text inside of sections leaves as many of them open as it found. -/
theorem outside?_append {xs ds : List Char} {depth : Nat} (h : outside? depth xs = some ds) (more : Nat)
    (rest : List Char) : outside? (depth + more + 1) (xs ++ rest) = outside? (more + 1) rest := by
  induction xs generalizing depth ds with
  | nil =>
    cases depth with
    | zero => rw [Nat.zero_add, List.nil_append]
    | succ depth => cases h
  | cons c xs ih =>
    obtain ⟨depth', ds', h', hpass⟩ := outside?_tail h
    rw [List.cons_append, hpass, ih h']

/-- What follows a character is read at a depth that the character decides. -/
theorem outside?_congr (c : Char) {cs ds : List Char} (h : ∀ depth, outside? depth cs = outside? depth ds) (depth : Nat) :
    outside? depth (c :: cs) = outside? depth (c :: ds) := by
  cases depth <;> simp only [outside?, h]

/-- A text inside of a section is passed. -/
theorem outside?_passed {inner : List Char} (h : ∀ c ∈ inner, isAngle c = false) (depth : Nat) (cs : List Char) :
    outside? (depth + 1) (inner ++ cs) = outside? (depth + 1) cs := by
  induction inner with
  | nil => rfl
  | cons c inner ih =>
    rw [List.cons_append, outside?_inside (h c List.mem_cons_self), ih fun d hd => h d (List.mem_cons_of_mem _ hd)]

/-! ## Innermost sections -/

theorem stripFrom_eq_drop (n : Nat) (cs : List Char) : stripFrom n cs = stripFrom 0 (cs.drop n) := by
  induction n generalizing cs with
  | zero => rfl
  | succ n ih =>
    cases cs with
    | nil => rfl
    | cons c cs => rw [stripFrom, ih, List.drop_succ_cons]

theorem getElem?_length_takeWhile (p : Char → Bool) (cs : List Char) :
    cs[(cs.takeWhile p).length]? = (cs.dropWhile p).head? := by
  induction cs with
  | nil => rfl
  | cons c cs ih => by_cases hc : p c <;> simp [hc, ih]

/-- What removing innermost sections does at a character: a section that starts there goes, or the character stays. It
    stays unless it is an opening bracket and the next angle bracket closes it. -/
theorem stripFrom_cons (c : Char) (cs : List Char) :
    (∃ inner rest, c = '<' ∧ cs = inner ++ '>' :: rest ∧ (∀ d ∈ inner, isAngle d = false) ∧
      stripFrom 0 (c :: cs) = stripFrom 0 rest) ∨
    (¬ (c = '<' ∧ (cs.dropWhile fun d => !isAngle d).head? = some '>') ∧ stripFrom 0 (c :: cs) = c :: stripFrom 0 cs) := by
  have hsection : (c == '<' && cs[(cs.takeWhile fun d => !isAngle d).length]? == some '>') = true ↔
      c = '<' ∧ (cs.dropWhile fun d => !isAngle d).head? = some '>' := by
    rw [getElem?_length_takeWhile, Bool.and_eq_true, beq_iff_eq, beq_iff_eq]
  rw [stripFrom]
  by_cases h : c = '<' ∧ (cs.dropWhile fun d => !isAngle d).head? = some '>'
  · left
    obtain ⟨rest, hrest⟩ := List.head?_eq_some_iff.1 h.2
    obtain ⟨inner, hinner⟩ : ∃ inner, inner = cs.takeWhile fun d => !isAngle d := ⟨_, rfl⟩
    have hsplit : cs = inner ++ '>' :: rest := by
      rw [hinner, ← hrest, List.takeWhile_append_dropWhile]
    have hdrop : cs.drop (inner.length + 1) = rest := by
      rw [hsplit, ← List.drop_drop, List.drop_left]
      rfl
    refine ⟨inner, rest, h.1, hsplit, fun d hd => ?_, ?_⟩
    · rw [hinner] at hd
      simpa using List.all_eq_true.1 List.all_takeWhile d hd
    · rw [if_pos (hsection.2 h), stripFrom_eq_drop, ← hinner, hdrop]
  · right
    exact ⟨h, if_neg (mt hsection.1 h)⟩

/-- Without its innermost sections, the first text is the second: along it, such a section goes, or a character stays that
    does not start one. -/
inductive Peels : List Char → List Char → Prop
  | nil : Peels [] []
  | removed {inner rest ds : List Char} (hinner : ∀ d ∈ inner, isAngle d = false) (h : Peels rest ds) :
      Peels ('<' :: (inner ++ '>' :: rest)) ds
  | kept {c : Char} {cs ds : List Char} (hnone : ¬ (c = '<' ∧ (cs.dropWhile fun d => !isAngle d).head? = some '>'))
      (h : Peels cs ds) : Peels (c :: cs) (c :: ds)

/-- By induction on the length, since a section is removed as a whole. -/
theorem peels_stripInnermost (cs : List Char) : Peels cs (stripInnermost cs) := by
  unfold stripInnermost
  induction hn : cs.length using Nat.strongRecOn generalizing cs with
  | ind n ih =>
    cases cs with
    | nil => exact .nil
    | cons c cs =>
      rw [List.length_cons] at hn
      rcases stripFrom_cons c cs with ⟨inner, rest, rfl, rfl, hinner, hstrip⟩ | ⟨hnone, hstrip⟩
      · have hshorter : rest.length < n := by
          rw [← hn, List.length_append, List.length_cons]
          omega
        rw [hstrip]
        exact .removed hinner (ih _ hshorter rest rfl)
      · have hshorter : cs.length < n := by omega
        rw [hstrip]
        exact .kept hnone (ih _ hshorter cs rfl)

/-- What is outside of all sections is outside of the innermost ones. -/
theorem Peels.outside?_eq {cs ds : List Char} (h : Peels cs ds) (depth : Nat) : outside? depth ds = outside? depth cs := by
  induction h generalizing depth with
  | nil => rfl
  | removed hinner _ ih => rw [ih, outside?_open, outside?_passed hinner, outside?_close]
  | kept _ _ ih => exact outside?_congr _ ih depth

/-- Removing sections leaves the other characters in their order. -/
theorem Peels.sublist {cs ds : List Char} (h : Peels cs ds) : ds.Sublist cs := by
  induction h with
  | nil => exact .slnil
  | @removed inner rest _ _ _ ih =>
    have hbehind : rest.Sublist (inner ++ '>' :: rest) :=
      (List.sublist_cons_self '>' rest).trans (List.sublist_append_right inner _)
    exact (ih.trans hbehind).cons '<'
  | kept _ _ ih => exact ih.cons_cons _

/-- A round that makes the text no shorter has changed nothing. -/
theorem stripInnermost_eq_self {cs : List Char} (h : ¬ (stripInnermost cs).length < cs.length) : stripInnermost cs = cs :=
  (peels_stripInnermost cs).sublist.eq_of_length_le (Nat.le_of_not_lt h)

/-! ## Texts without a section -/

/-- No opening bracket has a closing one behind it. -/
def NoSection (cs : List Char) : Prop :=
  cs.Pairwise fun c d => ¬ (c = '<' ∧ d = '>')

/-- A text has no section if no closing angle stands behind an opening one. -/
theorem noSection_cons {c : Char} {cs : List Char} : NoSection (c :: cs) ↔ (c = '<' → '>' ∉ cs) ∧ NoSection cs := by
  unfold NoSection
  rw [List.pairwise_cons]
  refine and_congr_left fun _ => ⟨fun h hc hmem => h '>' hmem ⟨hc, rfl⟩, ?_⟩
  rintro h d hd ⟨hc, rfl⟩
  exact h hc hd

/-- If the next bracket does not close a section, none does. -/
theorem close_not_mem {cs : List Char} (h : NoSection cs) (hnext : (cs.dropWhile fun d => !isAngle d).head? ≠ some '>') :
    '>' ∉ cs := by
  induction cs with
  | nil => exact List.not_mem_nil
  | cons c cs ih =>
    obtain ⟨hopen, hrest⟩ := noSection_cons.1 h
    rcases angle_cases c with rfl | rfl | hc
    · intro hmem
      exact hopen rfl (List.mem_of_ne_of_mem (by decide) hmem)
    · exact absurd (by simp [isAngle]) hnext
    · have hne : '>' ≠ c := fun he => by simp [← he, isAngle] at hc
      rw [List.dropWhile_cons_of_pos (by simp [hc])] at hnext
      intro hmem
      exact ih hrest hnext (List.mem_of_ne_of_mem hne hmem)

theorem Peels.noSection {cs ds : List Char} (h : Peels cs ds) (hsame : ds = cs) : NoSection cs := by
  induction h with
  | nil => exact .nil
  | @removed inner rest _ _ h _ =>
    -- a text without one of its sections is shorter
    have hle := h.sublist.length_le
    rw [hsame, List.length_cons, List.length_append, List.length_cons] at hle
    omega
  | kept hnone _ ih =>
    have hrest := ih (List.cons.inj hsame).2
    exact noSection_cons.2 ⟨fun hc => close_not_mem hrest fun hnext => hnone ⟨hc, hnext⟩, hrest⟩

theorem Peels.eq_of_noSection {cs ds : List Char} (h : Peels cs ds) (hnone : NoSection cs) : ds = cs := by
  induction h with
  | nil => rfl
  | removed _ _ _ => exact absurd (by simp) ((noSection_cons.1 hnone).1 rfl)
  | kept _ _ ih => rw [ih (noSection_cons.1 hnone).2]

/-- **Nothing is removed exactly if there is no section.** -/
theorem stripInnermost_eq_self_iff {cs : List Char} : stripInnermost cs = cs ↔ NoSection cs :=
  ⟨(peels_stripInnermost cs).noSection, (peels_stripInnermost cs).eq_of_noSection⟩

/-! ## Balanced texts -/

/-- Inside of a section, a text that is balanced up to its end closes it. -/
theorem close_mem_of_outside? {cs ds : List Char} {depth : Nat} (h : outside? (depth + 1) cs = some ds) : '>' ∈ cs := by
  induction cs generalizing depth with
  | nil => cases h
  | cons c cs ih =>
    rcases angle_cases c with rfl | rfl | hc
    · rw [outside?_open] at h
      exact List.mem_cons_of_mem _ (ih h)
    · exact List.mem_cons_self
    · rw [outside?_inside hc] at h
      exact List.mem_cons_of_mem _ (ih h)

/-- A balanced text without a section has no brackets. -/
theorem eq_of_noSection {cs ds : List Char} (hnone : NoSection cs) (h : outside? 0 cs = some ds) : cs = ds := by
  induction cs generalizing ds with
  | nil => exact Option.some.inj h
  | cons c cs ih =>
    obtain ⟨hopen, hrest⟩ := noSection_cons.1 hnone
    rcases angle_cases c with rfl | rfl | hc
    · rw [outside?_open] at h
      exact absurd (close_mem_of_outside? h) (hopen rfl)
    · cases h
    · rw [outside?_plain hc] at h
      obtain ⟨ds', h', rfl⟩ := Option.map_eq_some_iff.1 h
      rw [ih hrest h']

/-- **Stripping leaves what stands outside of all sections**, if the angle brackets are balanced. -/
theorem stripGenerics_eq {cs ds : List Char} (h : outside? 0 cs = some ds) : stripGenerics cs = ds := by
  rw [stripGenerics]
  split
  · next hshorter => exact stripGenerics_eq (((peels_stripInnermost cs).outside?_eq 0).trans h)
  · next hlength => exact eq_of_noSection (stripInnermost_eq_self_iff.1 (stripInnermost_eq_self hlength)) h
termination_by cs.length

/-! ## Texts are stripped one by one -/

/-- A text that starts with `xs` is stripped to one that starts with `ys`. -/
def StripsTo (xs ys : List Char) : Prop :=
  ∀ rest, outside? 0 (xs ++ rest) = (outside? 0 rest).map (ys ++ ·)

/-- Texts that strip on their own strip one behind another. -/
theorem StripsTo.append {xs ys xs' ys' : List Char} (h : StripsTo xs ys) (h' : StripsTo xs' ys') :
    StripsTo (xs ++ xs') (ys ++ ys') := by
  intro rest
  rw [List.append_assoc, h, h', Option.map_map]
  refine Option.map_congr fun zs _ => ?_
  exact (List.append_assoc ys ys' zs).symm

/-- A text that strips on its own is stripped to that text. -/
theorem StripsTo.stripGenerics {xs ys : List Char} (h : StripsTo xs ys) : stripGenerics xs = ys := by
  refine stripGenerics_eq ?_
  have hall := h []
  rw [List.append_nil] at hall
  rw [hall]
  exact congrArg some (List.append_nil ys)

/-- A text without angles is left as it is. -/
theorem stripsTo_plain {xs : List Char} (h : ∀ c ∈ xs, isAngle c = false) : StripsTo xs xs := by
  intro rest
  induction xs with
  | nil => simp
  | cons c xs ih =>
    rw [List.cons_append, outside?_plain (h c List.mem_cons_self), ih fun d hd => h d (List.mem_cons_of_mem _ hd),
      Option.map_map]
    rfl

/-- A character that is no angle is left as it is. -/
theorem stripsTo_char {c : Char} (h : isAngle c = false) : StripsTo [c] [c] :=
  stripsTo_plain (List.forall_mem_singleton.2 h)

/-- **A section is stripped as a whole**, if what it holds is balanced. -/
theorem stripsTo_section {inner : List Char} (h : (outside? 0 inner).isSome) : StripsTo ('<' :: (inner ++ ['>'])) [] := by
  intro rest
  obtain ⟨ds, hds⟩ := Option.isSome_iff_exists.1 h
  have htext : '<' :: (inner ++ ['>']) ++ rest = '<' :: (inner ++ '>' :: rest) := by simp
  have hinner : outside? 1 (inner ++ '>' :: rest) = outside? 1 ('>' :: rest) := outside?_append hds 0 _
  rw [htext, outside?_open, hinner, outside?_close]
  simp

end SpringAtlas.Source
