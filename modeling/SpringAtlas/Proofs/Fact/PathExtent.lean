import Mathlib.Data.List.Infix
import SpringAtlas.Proofs.Fact.Comments
import SpringAtlas.Proofs.Fact.Mapping

/-!
# `Proofs.Fact.PathExtent` — where the arguments of a mapping annotation end

The arguments of a mapping annotation are delimited twice, by the same counting of parentheses: on the masked line, where
the path is blank, and on the line as it stands, where the parentheses of the path count too. An opening parenthesis in
the path does no harm, since a list that does not close runs to the end of the line. A closing one does, as soon as it
closes more than the path has opened: the list then ends inside the literal, and without its closing quote no path is
read at all.

## Contents
* `KeepsOpen` — a text that closes no parenthesis from outside
* `groupLength?_eq_none_iff`, `groupLength?_append_of_none` — the count of parentheses over a text
* `groupEnd_keepsOpen`, `groupEnd_not_keepsOpen` — the end of an argument list with one literal
* `argumentsPath?_halfQuoted` — no path without a closing quote
* `mappingPath?_mappingLine` — exactly which paths are read
-/

namespace SpringAtlas

/-! ## Counting parentheses -/

/-- No part of the text from its start on closes more parentheses than it opens. -/
def KeepsOpen (cs : List Char) : Prop :=
  ∀ u, u <+: cs → u.count ')' ≤ u.count '('

instance (cs : List Char) : Decidable (KeepsOpen cs) :=
  decidable_of_iff (∀ u ∈ cs.inits, u.count ')' ≤ u.count '(') (by simp only [List.mem_inits, KeepsOpen])

/-- **A group stays open** as long as no more is closed than is open. By induction on the text, along the depth. -/
theorem groupLength?_eq_none_iff {depth : Nat} (hdepth : 0 < depth) (cs : List Char) :
    Source.groupLength? depth cs = none ↔ ∀ u, u <+: cs → u.count ')' < depth + u.count '(' := by
  induction cs generalizing depth with
  | nil =>
    constructor
    · intro _ u hu
      rw [List.prefix_nil.1 hu]
      simpa using hdepth
    · intro _
      rfl
  | cons c cs ih =>
    rw [groupLength?_cons]
    by_cases hclose : c = ')' ∧ depth ≤ 1
    · obtain ⟨rfl, hle⟩ := hclose
      rw [if_pos ⟨rfl, hle⟩]
      constructor
      · intro h
        cases h
      · intro h
        have hone := h [')'] (List.prefix_cons_iff.2 (Or.inr ⟨[], rfl, List.nil_prefix⟩))
        have hcount : [')'].count ')' = 1 ∧ [')'].count '(' = 0 := by decide
        omega
    · rw [if_neg hclose, Option.map_eq_none_iff]
      have hafter : 0 < depthAfter depth c := by
        unfold depthAfter
        split
        · omega
        · split
          · next hparen =>
            have hc : c = ')' := by simpa using hparen
            have hlt : ¬ depth ≤ 1 := fun hle => hclose ⟨hc, hle⟩
            omega
          · exact hdepth
      -- what `c` adds to the counts is what it does to the depth
      have hstep (u : List Char) : (c :: u).count ')' < depth + (c :: u).count '(' ↔
          u.count ')' < depthAfter depth c + u.count '(' := by
        unfold depthAfter
        by_cases hopen : c = '('
        · subst hopen
          simp
          omega
        · by_cases hparen : c = ')'
          · subst hparen
            have hlt : ¬ depth ≤ 1 := fun hle => hclose ⟨rfl, hle⟩
            simp
            omega
          · simp [hopen, hparen]
      rw [ih hafter]
      constructor
      · intro h u hu
        rcases List.prefix_cons_iff.1 hu with rfl | ⟨t, rfl, ht⟩
        · simpa using hdepth
        · exact (hstep t).2 (h t ht)
      · intro h u hu
        exact (hstep u).1 (h (c :: u) (List.prefix_cons_iff.2 (Or.inr ⟨u, rfl, hu⟩)))

theorem groupLength?_one_eq_none_iff {cs : List Char} : Source.groupLength? 1 cs = none ↔ KeepsOpen cs := by
  rw [groupLength?_eq_none_iff Nat.one_pos]
  constructor
  · intro h u hu
    have hlt := h u hu
    omega
  · intro h u hu
    have hle := h u hu
    omega

/-- Behind a text where the group stays open, the count goes on. -/
theorem groupLength?_append_of_none {depth : Nat} {cs : List Char} (h : Source.groupLength? depth cs = none)
    (w : List Char) :
    Source.groupLength? depth (cs ++ w) = (Source.groupLength? (cs.foldl depthAfter depth) w).map (· + cs.length) := by
  induction cs generalizing depth with
  | nil => simp
  | cons c cs ih =>
    rw [groupLength?_cons] at h
    rw [List.cons_append, groupLength?_cons]
    split at h
    · cases h
    · next hclose =>
      rw [if_neg hclose, ih (Option.map_eq_none_iff.1 h), Option.map_map]
      rfl

/-! ## The end of an argument list -/

/-- An argument list with one literal, behind a text that holds no list. -/
def literalList (pre s : List Char) : List Char :=
  pre ++ '(' :: (quoted s ++ [')'])

theorem groupEnd_literalList (pre s : List Char) :
    Source.groupEnd (literalList pre s) pre.length =
      pre.length + (Source.groupLength? 0 ('(' :: (quoted s ++ [')']))).getD (s.length + 4) := by
  have hend := groupEnd_gap (List.forall_mem_nil _) (quoted s ++ [')'])
  rw [groupEnd_drop, literalList, List.drop_left]
  rw [List.nil_append, List.length_nil, Nat.zero_add] at hend
  have hlen : (quoted s ++ [')']).length + 1 = s.length + 4 := by
    simp [quoted]
  rw [hend, hlen]

theorem groupLength?_literal (s : List Char) :
    Source.groupLength? 0 ('(' :: (quoted s ++ [')'])) = (Source.groupLength? 1 (s ++ ['"', ')'])).map (· + 2) := by
  have htext : '(' :: (quoted s ++ [')']) = '(' :: '"' :: (s ++ ['"', ')']) := by
    simp [quoted]
  rw [htext, groupLength?_cons, if_neg (by decide), groupLength?_cons, if_neg (by decide), Option.map_map]
  rfl

/-- **A path that keeps the list open is inside it**: the list ends with the line. -/
theorem groupEnd_keepsOpen {s : List Char} (h : KeepsOpen s) (pre : List Char) :
    Source.groupEnd (literalList pre s) pre.length = (literalList pre s).length := by
  have hopen : Source.groupLength? 1 s = none := groupLength?_one_eq_none_iff.2 h
  have hlen : (literalList pre s).length = pre.length + (s.length + 4) := by
    simp [literalList, quoted]
  rw [groupEnd_literalList, groupLength?_literal, groupLength?_append_of_none hopen, hlen]
  -- the last character closes the list, or it stays open to the end of the line
  rw [groupLength?_cons, if_neg (by simp), groupLength?_cons]
  split
  · simp
    omega
  · rfl

/-- **A path that closes the list cuts it off** before the closing quote. -/
theorem groupEnd_not_keepsOpen {s : List Char} (h : ¬ KeepsOpen s) (pre : List Char) :
    ∃ n ≤ s.length, Source.groupEnd (literalList pre s) pre.length = pre.length + (n + 2) := by
  obtain ⟨n, hn⟩ := Option.ne_none_iff_exists'.1 (mt groupLength?_one_eq_none_iff.1 h)
  refine ⟨n, groupLength?_le hn, ?_⟩
  rw [groupEnd_literalList, groupLength?_literal, groupLength?_append_of_some hn]
  rfl

/-! ## The path -/

theorem Source.Encloses.two_le_count {text pre s post : List Char} (h : Source.Encloses text pre s post) :
    2 ≤ text.count '"' := by
  rw [h.text_eq, List.count_append, List.count_cons_self, List.count_append, List.count_cons_self]
  omega

/-- With one quote only there is a literal, but no path. -/
theorem argumentsPath?_halfQuoted {cs : List Char} (h : cs.count '"' = 1) : argumentsPath? cs = none := by
  have hnot : ¬ ∃ pre s post, Source.Encloses cs pre s post := by
    rintro ⟨pre, s, post, henc⟩
    have htwo := henc.two_le_count
    omega
  have hlead : leadingPathPattern.search? cs = none :=
    Option.eq_none_iff_forall_ne_some.2 fun m hm => hnot (leadingPath_encloses hm)
  have hnamed : namedPathPattern.search? cs = none :=
    Option.eq_none_iff_forall_ne_some.2 fun m hm => hnot (namedPath_encloses hm)
  have hquote : '"' ∈ cs := List.count_pos_iff.1 (by omega)
  rw [argumentsPath?, hlead, hnamed, Option.or_none]
  exact if_pos (by simpa using hquote)

theorem mappingPath?_keepsOpen {s : List Char} (hs : ∀ x ∈ s, x ≠ '"' ∧ x ≠ '\n') (h : KeepsOpen s) (pre : List Char) :
    mappingPath? (literalList pre s) pre.length = some s := by
  have hne : (literalList pre s).length ≠ pre.length := by
    simp [literalList]
  have hslice : Text.slice (literalList pre s) pre.length (literalList pre s).length = '(' :: (quoted s ++ [')']) := by
    rw [Text.slice, List.take_length, literalList, List.drop_left]
  rw [mappingPath?, groupEnd_keepsOpen h, if_neg hne, hslice, argumentsPath?_leading hs]

theorem mappingPath?_not_keepsOpen {s : List Char} (hs : ∀ x ∈ s, x ≠ '"' ∧ x ≠ '\n') (h : ¬ KeepsOpen s)
    (pre : List Char) : mappingPath? (literalList pre s) pre.length = none := by
  obtain ⟨n, hn, hend⟩ := groupEnd_not_keepsOpen h pre
  have hslice : Text.slice (literalList pre s) pre.length (pre.length + (n + 2)) = '(' :: '"' :: s.take n := by
    have htake : (s ++ ['"', ')']).take n = s.take n := List.take_append_of_le_length hn
    rw [Text.slice, List.drop_take, literalList, List.drop_left, Nat.add_sub_cancel_left]
    simp [quoted, htake]
  have hquote : '"' ∉ s.take n := fun hmem => (hs _ (List.mem_of_mem_take hmem)).1 rfl
  rw [mappingPath?, hend, if_neg (by omega), hslice]
  refine argumentsPath?_halfQuoted ?_
  rw [List.count_cons_of_ne (by decide), List.count_cons_self, List.count_eq_zero_of_not_mem hquote]

/-! ## Mapping annotations -/

/-- The name of a mapping annotation. -/
def HttpMethod.mappingName (m : HttpMethod) : List Char :=
  '@' :: (m.verb ++ "Mapping").toList

/-- A line with a mapping annotation, its path and nothing else. -/
def mappingLine (m : HttpMethod) (p : LiteralText) : List Char :=
  literalList m.mappingName p.chars

theorem mask_mappingLine (m : HttpMethod) (p : LiteralText) :
    Source.mask (mappingLine m p) = literalList m.mappingName (List.replicate p.chars.length ' ') := by
  have hname : MasksTo m.mappingName m.mappingName := by
    refine masksTo_plain (List.all_eq_true.1 ?_)
    cases m <;> decide
  have hopen : MasksTo ['('] ['('] := masksTo_char (by decide)
  have hclose : MasksTo [')'] [')'] := masksTo_char (by decide)
  exact (hname.append (hopen.append ((masksTo_quoted p.inside).append hclose))).mask

theorem keepsOpen_spaces (n : Nat) : KeepsOpen (List.replicate n ' ') := by
  intro u hu
  have hclose : u.count ')' = 0 := by
    refine List.count_eq_zero_of_not_mem fun hmem => ?_
    have hspace := (List.mem_replicate.1 (hu.subset hmem)).2
    exact absurd hspace (by decide)
  omega

/-- **Mapping paths that are read whole.** On the masked line the arguments of the annotation end with the line. On the
    line as it stands they end there exactly if the path keeps the list open, and then the path is read; otherwise there
    is none. -/
theorem mappingPath?_mappingLine (m : HttpMethod) (p : LiteralText) :
    Source.groupEnd (Source.mask (mappingLine m p)) m.mappingName.length = (mappingLine m p).length ∧
    (Source.groupEnd (mappingLine m p) m.mappingName.length = (mappingLine m p).length ↔ KeepsOpen p.chars) ∧
    mappingPath? (mappingLine m p) m.mappingName.length = (if KeepsOpen p.chars then some p.chars else none) := by
  have hs : ∀ x ∈ p.chars, x ≠ '"' ∧ x ≠ '\n' := fun x hx => ⟨(p.char_of_mem hx).1, (p.char_of_mem hx).2.2⟩
  refine ⟨?_, ⟨fun hend => ?_, fun h => groupEnd_keepsOpen h _⟩, ?_⟩
  · rw [mask_mappingLine, groupEnd_keepsOpen (keepsOpen_spaces _)]
    simp [mappingLine, literalList, quoted]
  · by_contra h
    obtain ⟨n, hn, hcut⟩ := groupEnd_not_keepsOpen h m.mappingName
    have hlen : (mappingLine m p).length = m.mappingName.length + (p.chars.length + 4) := by
      simp [mappingLine, literalList, quoted]
    rw [mappingLine, hcut] at hend
    rw [mappingLine] at hlen
    omega
  · split
    · next h => exact mappingPath?_keepsOpen hs h _
    · next h => exact mappingPath?_not_keepsOpen hs h _

/-- A path with a closing parenthesis that it has not opened. -/
def closingPath : LiteralText where
  chars := "/a)b".toList
  valid := by decide

/-- **A closing parenthesis in a path hides it.** -/
theorem mappingPath?_closingPath :
    mappingPath? "@GetMapping(\"/a)b\")".toList 11 = none ∧
    mappingLine .get closingPath = "@GetMapping(\"/a)b\")".toList ∧ HttpMethod.get.mappingName.length = 11 := by
  decide +kernel

end SpringAtlas
