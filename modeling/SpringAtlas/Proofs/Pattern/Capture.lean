import SpringAtlas.Proofs.Pattern.Search

/-!
# `Proofs.Pattern.Capture` — what the groups of a match hold

A match of a pattern whose every way goes through a group has captured that group, and the text of the group is one that
the pattern of the group reads. `Binds p i P` says so of all ways at once; it is put together along the pattern, where
what comes behind the group must not capture it again.

## Contents
* `Pattern.Reads` — the texts that a pattern reads
* `Pattern.omits`, `run_omits` — patterns without a group leave it as it was
* `Pattern.Binds` — patterns that capture a group
* `searchIn?_start_le`, `Binds.search?`, `Binds.searchIn?` — matches and their groups
-/

namespace SpringAtlas

/-- Where group `i` was captured last on the way to `c`. -/
def Cursor.span? (c : Cursor) (i : Nat) : Option (Nat × Nat) :=
  (c.captures.find? fun g => g.index == i).map fun g => (g.start, g.stop)

namespace Pattern

variable {p q : Pattern} {i : Nat} {P : List Char → Prop}

/-! ## Texts that are read -/

/-- Every way of the pattern reads a text with the property. -/
def Reads (p : Pattern) (P : List Char → Prop) : Prop :=
  ∀ (c : Cursor) (k : Next) (r : Cursor), p.run c k = some r →
    ∃ d xs, c.rest = xs ++ d.rest ∧ d.pos = c.pos + xs.length ∧ P xs ∧ k d = some r

/-- Every pattern reads some text. -/
theorem reads_any (p : Pattern) : Reads p fun _ => True := by
  intro c k r h
  obtain ⟨d, ⟨xs, hrest, hpos, -⟩, hk⟩ := run_reaches h
  exact ⟨d, xs, hrest, hpos, True.intro, hk⟩

theorem reads_lit (s : String) : Reads (lit s) (· = s.toList) := by
  intro c k r h
  rw [run_lit] at h
  split at h
  · next hs =>
    refine ⟨_, s.toList, ?_, rfl, rfl, h⟩
    obtain ⟨rest, hrest⟩ := hs
    simp [← hrest]
  · cases h

theorem Reads.mono {Q : List Char → Prop} (h : Reads p P) (hPQ : ∀ xs, P xs → Q xs) : Reads p Q := by
  intro c k r hrun
  obtain ⟨d, xs, hrest, hpos, hP, hk⟩ := h c k r hrun
  exact ⟨d, xs, hrest, hpos, hPQ xs hP, hk⟩

theorem reads_anyOf {ps : List Pattern} (h : ∀ p ∈ ps, Reads p P) : Reads (anyOf ps) P := by
  induction ps with
  | nil =>
    intro c k r hrun
    cases hrun
  | cons p ps ih =>
    cases ps with
    | nil => exact h p (by simp)
    | cons p' ps =>
      intro c k r hrun
      change (p <|> anyOf (p' :: ps)).run c k = some r at hrun
      rw [run_alt] at hrun
      rcases Option.or_eq_some_iff.1 hrun with hrun | ⟨-, hrun⟩
      · exact h p (by simp) c k r hrun
      · exact ih (fun q hq => h q (List.mem_cons_of_mem _ hq)) c k r hrun

/-- A choice of words reads one of them. -/
theorem reads_oneOf (ss : List String) : Reads (oneOf ss) fun xs => ∃ s ∈ ss, xs = s.toList := by
  refine reads_anyOf fun p hp => ?_
  obtain ⟨s, hs, rfl⟩ := List.mem_map.1 hp
  exact (reads_lit s).mono fun xs hxs => ⟨s, hs, hxs⟩

/-- A pattern that starts with a character reads something. -/
theorem reads_one_seq (ok : Char → Bool) (q : Pattern) : Reads (one ok ++ q) (· ≠ []) := by
  intro c k r h
  change ((one ok).run c fun d => q.run d k) = some r at h
  cases hrest : c.rest with
  | nil => rw [fails_one (by simp [hrest])] at h; cases h
  | cons x rest =>
    by_cases hx : ok x
    · rw [run_one hrest hx] at h
      obtain ⟨d, ⟨xs, hxs, hpos, -⟩, hk⟩ := run_reaches h
      refine ⟨d, x :: xs, ?_, ?_, by simp, hk⟩
      · rw [List.cons_append, ← hxs]
        rfl
      · rw [hpos, List.length_cons, Cursor.after_pos, List.length_singleton]
        omega
    · rw [fails_one (by simp [hrest, hx])] at h; cases h

/-! ## Groups that are not touched -/

/-- The pattern does not capture group `i`. -/
def omits (i : Nat) : Pattern → Bool
  | seq p q | alt p q => omits i p && omits i q
  | star p | lazyStar p => omits i p
  | group j p => j != i && omits i p
  | _ => true

theorem moves_omits (h : p.omits i) : Moves (fun c d => c.Reaches d ∧ d.span? i = c.span? i) p := by
  induction p with
  | one ok => exact fun c x rest hrest _ => ⟨⟨[x], hrest, rfl, rfl, rfl⟩, rfl⟩
  | seq p q ihp ihq | alt p q ihp ihq =>
    obtain ⟨hp, hq⟩ := Bool.and_eq_true_iff.1 h
    exact ⟨ihp hp, ihq hq⟩
  | star p ih | lazyStar p ih => exact ih h
  | group j p ih =>
    obtain ⟨hj, hp⟩ := Bool.and_eq_true_iff.1 h
    refine ⟨ih hp, fun c d ⟨⟨xs, hd⟩, hspan⟩ => ⟨⟨xs, hd⟩, ?_⟩⟩
    have hne : (j == i) = false := by simpa using hj
    rw [← hspan, Cursor.span?, Cursor.span?, Cursor.capture_captures, List.find?_cons, hne]
  | _ => exact True.intro

theorem run_omits (hp : p.omits i) {c : Cursor} {k : Next} {r : Cursor} (h : p.run c k = some r) :
    ∃ d, c.Reaches d ∧ d.span? i = c.span? i ∧ k d = some r := by
  obtain ⟨d, ⟨hd, hspan⟩, hk⟩ := run_related (fun c => ⟨.refl c, rfl⟩)
    (fun h h' => ⟨h.1.trans h'.1, h'.2.trans h.2⟩) (moves_omits hp) h
  exact ⟨d, hd, hspan, hk⟩

/-! ## Groups that are captured -/

/-- Every way of the pattern captures a text with the property as group `i`. -/
def Binds (p : Pattern) (i : Nat) (P : List Char → Prop) : Prop :=
  ∀ (c : Cursor) (k : Next) (r : Cursor), p.run c k = some r →
    ∃ d pre word post, c.rest = pre ++ word ++ (post ++ d.rest) ∧ d.pos = c.pos + (pre ++ word ++ post).length ∧
      d.span? i = some (c.pos + pre.length, c.pos + pre.length + word.length) ∧ P word ∧ k d = some r

/-- A group captures what its pattern reads. -/
theorem Reads.binds (h : Reads p P) (i : Nat) : Binds (group i p) i P := by
  intro c k r hrun
  obtain ⟨d, xs, hrest, hpos, hP, hk⟩ := h c _ r hrun
  refine ⟨d.capture i c.pos, [], xs, [], by simpa using hrest, by simpa using hpos, ?_, hP, hk⟩
  simp [Cursor.span?, hpos]

/-- What is captured stays if nothing behind it captures the same group. -/
theorem Binds.seq_left (h : Binds p i P) (hq : q.omits i) : Binds (p ++ q) i P := by
  intro c k r hrun
  obtain ⟨d, pre, word, post, hrest, hpos, hspan, hP, hrun⟩ := h c _ r hrun
  obtain ⟨e, ⟨xs, hrest', hpos', -⟩, hspan', hk⟩ := run_omits hq hrun
  refine ⟨e, pre, word, post ++ xs, ?_, ?_, hspan'.trans hspan, hP, hk⟩
  · rw [hrest, hrest', List.append_assoc post]
  · rw [hpos', hpos]
    simp only [List.length_append]
    omega

/-- What is captured behind another pattern counts. -/
theorem Binds.seq_right (h : Binds q i P) (p : Pattern) : Binds (p ++ q) i P := by
  intro c k r hrun
  obtain ⟨d, ⟨xs, hrest, hpos, -⟩, hrun⟩ := run_reaches (p := p) hrun
  obtain ⟨e, pre, word, post, hrest', hpos', hspan, hP, hk⟩ := h d k r hrun
  refine ⟨e, xs ++ pre, word, post, ?_, ?_, ?_, hP, hk⟩
  · simp only [hrest, hrest', List.append_assoc]
  · rw [hpos', hpos]
    simp only [List.length_append]
    omega
  · rw [hspan, hpos, List.length_append, Nat.add_assoc c.pos]

/-! ## The groups of a match -/

/-- The group of a match has the property, and its span says where it stands. -/
theorem Binds.matchAt? (h : Binds p i P) {before : Option Char} {pos stop : Nat} {rest : List Char} {m : Match}
    (hm : p.matchAt? before pos stop rest = some m) :
    ∃ pre word post, rest = pre ++ word ++ post ∧ P word ∧
      m.span? i = some (pos + pre.length, pos + pre.length + word.length) := by
  obtain ⟨d, hrun, rfl⟩ := Option.map_eq_some_iff.1 hm
  obtain ⟨d', pre, word, post, hrest, -, hspan, hP, hd⟩ := h _ _ _ hrun
  cases hd
  exact ⟨pre, word, post ++ d.rest, hrest, hP, hspan⟩

/-- A search has found a match at some place. -/
theorem exists_matchAt?_of_scan? {before : Option Char} {pos stop : Nat} {rest : List Char} {m : Match}
    (h : p.scan? stop before pos rest = some m) :
    ∃ xs rest', rest = xs ++ rest' ∧ p.matchAt? (xs.getLast?.or before) (pos + xs.length) stop rest' = some m := by
  induction rest generalizing before pos with
  | nil => exact ⟨[], [], rfl, h⟩
  | cons x rest ih =>
    rw [scan?] at h
    split at h
    · next hmatch =>
      cases h
      exact ⟨[], x :: rest, rfl, hmatch⟩
    · obtain ⟨xs, rest', rfl, hmatch⟩ := ih h
      refine ⟨x :: xs, rest', rfl, ?_⟩
      rw [getLast?_cons_or, List.length_cons, Nat.add_comm xs.length, ← Nat.add_assoc]
      exact hmatch

/-- A match does not end before it starts. -/
theorem searchIn?_start_le {text : List Char} {start stop : Nat} {m : Match}
    (h : p.searchIn? text start stop = some m) : m.start ≤ m.stop := by
  unfold Pattern.searchIn? at h
  simp only [Option.ite_none_right_eq_some] at h
  obtain ⟨xs, rest, -, hmatch⟩ := exists_matchAt?_of_scan? h.2
  obtain ⟨d, hrun, rfl⟩ := Option.map_eq_some_iff.1 hmatch
  obtain ⟨d', ⟨ys, -, hpos, -⟩, hd⟩ := run_reaches hrun
  cases hd
  show start + xs.length ≤ d.pos
  rw [hpos]
  exact Nat.le_add_right _ _

/-- **A search captures the group**, with a text that its pattern reads. -/
theorem Binds.search? (h : Binds p i P) {text : List Char} {m : Match} (hm : p.search? text = some m) :
    P (m.group text i) := by
  obtain ⟨xs, rest, rfl, hmatch⟩ := exists_matchAt?_of_scan? hm
  obtain ⟨pre, word, post, rfl, hP, hspan⟩ := h.matchAt? hmatch
  have hgroup : m.group (xs ++ (pre ++ word ++ post)) i = word := by
    refine Match.group_eq (xs ++ pre) post (by simp) ?_
    rw [hspan, Nat.zero_add, List.length_append]
  rw [hgroup]
  exact hP

/-- The group of the leftmost match in a part of a text has the property, and its span says where it stands. -/
theorem Binds.searchIn? (h : Binds p i P) {text : List Char} {start stop : Nat} {m : Match}
    (hm : p.searchIn? text start stop = some m) : ∃ s e, m.span? i = some (s, e) := by
  unfold Pattern.searchIn? at hm
  simp only [Option.ite_none_right_eq_some] at hm
  obtain ⟨xs, rest, -, hmatch⟩ := exists_matchAt?_of_scan? hm.2
  obtain ⟨pre, word, post, -, -, hspan⟩ := h.matchAt? hmatch
  exact ⟨_, _, hspan⟩

end Pattern

end SpringAtlas
