import SpringAtlas.Proofs.Pattern.Run

/-!
# `Proofs.Pattern.Search` — where a search ends

A search passes the places where its pattern fails and ends at the first place where it matches. On a text whose shape is
known, the places passed are given as the text they stand in, `FailsThrough`, and the match by the way the pattern takes
there.

## Contents
* `slice_append`, `Match.group_eq` — the text of a group
* `FailsThrough`, `OpensWith` — places that a search passes
* `matchStart?_eq_some`, `search?_eq_some`, `search?_eq_none` — the ends of a search
* `head?_findAll` — the first of all matches
-/

namespace SpringAtlas

/-! ## Groups -/

/-- The middle of a text is the slice between its offsets. -/
theorem Text.slice_append (pre word post : List Char) :
    Text.slice (pre ++ word ++ post) pre.length (pre.length + word.length) = word := by
  rw [Text.slice, List.take_left' (by simp), List.drop_left]

/-- A slice between equal offsets is empty. -/
theorem Text.slice_self (cs : List Char) (i : Nat) : Text.slice cs i i = [] := by
  simp [Text.slice]

/-- A group that was captured over `word` holds `word`. -/
theorem Match.group?_eq {m : Match} {text word : List Char} {i : Nat} (pre post : List Char)
    (htext : text = pre ++ word ++ post)
    (hspan : m.span? i = some (pre.length, pre.length + word.length)) : m.group? text i = some word := by
  rw [Match.group?, hspan, Option.map_some, htext, Text.slice_append]

/-- A group holds the word at the offsets of its span. -/
theorem Match.group_eq {m : Match} {text word : List Char} {i : Nat} (pre post : List Char)
    (htext : text = pre ++ word ++ post)
    (hspan : m.span? i = some (pre.length, pre.length + word.length)) : m.group text i = word := by
  rw [Match.group, Match.group?_eq pre post htext hspan, Option.getD_some]

namespace Pattern

variable {p : Pattern} {before : Option Char} {xs rest : List Char} {d : Cursor}

/-! ## One place -/

/-- The preferred match at a place ends where the pattern goes. -/
theorem matchAt?_eq_some {pos stop : Nat} (hstop : pos + rest.length = stop)
    (h : Takes p ⟨before, pos, stop, rest, []⟩ d) :
    p.matchAt? before pos stop rest = some ⟨pos, d.pos, d.captures⟩ := by
  rw [matchAt?, (h hstop).2 some d rfl, Option.map_some]

/-- Where the pattern fails there is no match. -/
theorem matchAt?_eq_none {pos stop : Nat} (h : Fails p ⟨before, pos, stop, rest, []⟩) :
    p.matchAt? before pos stop rest = none := by
  rw [matchAt?, h some, Option.map_none]

/-- The preferred match at the start of a text ends where the pattern goes. -/
theorem matchStart?_eq_some (h : Takes p ⟨none, 0, xs.length, xs, []⟩ d) :
    p.matchStart? xs = some ⟨0, d.pos, d.captures⟩ :=
  matchAt?_eq_some (Nat.zero_add _) h

/-- A text has no match at its start if the pattern fails there. -/
theorem matchStart?_eq_none (h : Fails p ⟨none, 0, xs.length, xs, []⟩) : p.matchStart? xs = none :=
  matchAt?_eq_none h

/-! ## Places that a search passes -/

/-- The pattern fails at each place of a text that stands behind `before` and in front of `rest`. -/
def FailsThrough (p : Pattern) : Option Char → List Char → List Char → Prop
  | _, [], _ => True
  | before, x :: xs, rest =>
    (∀ c : Cursor, c.before = before → c.rest = x :: (xs ++ rest) → Fails p c) ∧ FailsThrough p (some x) xs rest

/-- The last character of a text, or what stands in front of it. -/
theorem getLast?_cons_or (x : Char) (xs : List Char) (before : Option Char) :
    (x :: xs).getLast?.or before = xs.getLast?.or (some x) := by
  rw [List.getLast?_cons]
  cases xs.getLast? <;> rfl

/-- A search passes a text if it passes both parts of it. -/
theorem failsThrough_append {ys : List Char} :
    FailsThrough p before (xs ++ ys) rest ↔
      FailsThrough p before xs (ys ++ rest) ∧ FailsThrough p (xs.getLast?.or before) ys rest := by
  induction xs generalizing before with
  | nil => simp [FailsThrough]
  | cons x xs ih =>
    simp only [List.cons_append, FailsThrough, ih, getLast?_cons_or, List.append_assoc, and_assoc]

/-- The places of a text, one by one, with what of the text stands in front of them. -/
theorem failsThrough_of_places (h : ∀ u x v, xs = u ++ x :: v → ∀ c : Cursor, c.before = u.getLast?.or before →
    c.rest = x :: (v ++ rest) → Fails p c) : FailsThrough p before xs rest := by
  induction xs generalizing before with
  | nil => exact True.intro
  | cons x xs ih =>
    refine ⟨h [] x xs rfl, ih fun u y v hxs => ?_⟩
    rw [← getLast?_cons_or]
    exact h (x :: u) y v (congrArg (x :: ·) hxs)

/-- The pattern matches only in front of a character of the class. -/
def OpensWith (p : Pattern) (ok : Char → Bool) : Prop :=
  ∀ c : Cursor, c.rest.head?.any ok = false → Fails p c

/-- A sequence opens like its first part. -/
theorem OpensWith.seq {ok : Char → Bool} (h : OpensWith p ok) (q : Pattern) : OpensWith (p ++ q) ok :=
  fun c hc => (h c hc).seq

/-- A word opens with its first character. -/
theorem opensWith_lit {s : String} (x : Char) {cs : List Char} (hs : s.toList = x :: cs) :
    OpensWith (lit s) (· == x) := by
  intro c hc
  refine fails_lit fun hprefix => ?_
  obtain ⟨t, ht⟩ := hprefix
  rw [← ht, hs] at hc
  simp at hc

/-- A search passes a text that has no character to open with. -/
theorem OpensWith.failsThrough {ok : Char → Bool} (h : OpensWith p ok) (hxs : ∀ x ∈ xs, ok x = false) :
    FailsThrough p before xs rest := by
  induction xs generalizing before with
  | nil => exact True.intro
  | cons x xs ih =>
    refine ⟨fun c _ hrest => h c ?_, ih fun y hy => hxs y (List.mem_cons_of_mem _ hy)⟩
    simp [hrest, hxs x (by simp)]

/-! ## Searches -/

theorem scan?_skip {pos stop : Nat} (hskip : FailsThrough p before xs rest) :
    p.scan? stop before pos (xs ++ rest) = p.scan? stop (xs.getLast?.or before) (pos + xs.length) rest := by
  induction xs generalizing before pos with
  | nil => rfl
  | cons x xs ih =>
    obtain ⟨hfails, hskip⟩ := hskip
    have hpos : pos + 1 + xs.length = pos + (x :: xs).length := by
      rw [List.length_cons]
      omega
    rw [List.cons_append, scan?, matchAt?_eq_none (hfails _ rfl rfl), getLast?_cons_or, ← hpos]
    exact ih hskip

/-- A match at the first place is the one that is found. -/
theorem scan?_of_matchAt? {pos stop : Nat} {m : Match} (h : p.matchAt? before pos stop rest = some m) :
    p.scan? stop before pos rest = some m := by
  cases rest with
  | nil => exact h
  | cons c rest => rw [scan?, h]

/-- **A search ends at the first place where the pattern matches.** -/
theorem search?_eq_some (hskip : FailsThrough p none xs rest)
    (h : Takes p ⟨xs.getLast?, xs.length, (xs ++ rest).length, rest, []⟩ d) :
    p.search? (xs ++ rest) = some ⟨xs.length, d.pos, d.captures⟩ := by
  rw [search?, scan?_skip hskip, Option.or_none, Nat.zero_add]
  exact scan?_of_matchAt? (matchAt?_eq_some (by simp) h)

/-- A match at the start of a text is the one that is found. -/
theorem search?_eq_some_start (h : Takes p ⟨none, 0, xs.length, xs, []⟩ d) :
    p.search? xs = some ⟨0, d.pos, d.captures⟩ :=
  scan?_of_matchAt? (matchStart?_eq_some h)

/-- A search in a text where the pattern fails everywhere, at the end too, finds nothing. -/
theorem search?_eq_none (hskip : FailsThrough p none xs []) (hend : ∀ c : Cursor, c.rest = [] → Fails p c) :
    p.search? xs = none := by
  -- the end of the text is a place too, behind all characters passed
  have hscan : p.scan? xs.length none 0 (xs ++ []) = _ := scan?_skip hskip
  rw [List.append_nil] at hscan
  rw [search?, hscan, scan?]
  exact matchAt?_eq_none (hend _ rfl)

theorem scan?_eq_none_of_anchored (h : ∀ c : Cursor, c.pos ≠ 0 → Fails p c) {pos stop : Nat} (hpos : pos ≠ 0) :
    p.scan? stop before pos xs = none := by
  induction xs generalizing before pos with
  | nil => exact matchAt?_eq_none (h _ hpos)
  | cons x xs ih =>
    rw [scan?, matchAt?_eq_none (h _ hpos)]
    exact ih (Nat.succ_ne_zero pos)

/-- A pattern that holds at the start of the text only is looked for there. -/
theorem search?_of_anchored (h : ∀ c : Cursor, c.pos ≠ 0 → Fails p c) (text : List Char) :
    p.search? text = p.matchStart? text := by
  cases text with
  | nil => rfl
  | cons x xs =>
    rw [search?, scan?, matchStart?, scan?_eq_none_of_anchored h (Nat.succ_ne_zero 0)]
    cases p.matchAt? none 0 (x :: xs).length (x :: xs) with
    | none => rfl
    | some m => rfl

/-- In a text without a character to open with, nothing is found. -/
theorem OpensWith.search?_eq_none {ok : Char → Bool} (h : OpensWith p ok) (hxs : ∀ x ∈ xs, ok x = false) :
    p.search? xs = none :=
  Pattern.search?_eq_none (h.failsThrough hxs) fun c hc => h c (by simp [hc])

/-- A search from the start up to an offset is a search of the text in front of the offset. -/
theorem searchIn?_zero (p : Pattern) (text : List Char) (stop : Nat) :
    p.searchIn? text 0 stop = p.search? (text.take stop) := by
  simp [searchIn?, search?]

/-- A search from offset zero is a search of the whole text. -/
theorem searchFrom?_zero (p : Pattern) (text : List Char) : p.searchFrom? text 0 = p.search? text := by
  rw [searchFrom?, searchIn?_zero, List.take_length]

/-- A search from the end of a text looks at one place. -/
theorem searchFrom?_length_eq_none (hend : ∀ c : Cursor, c.rest = [] → Fails p c) (text : List Char) :
    p.searchFrom? text text.length = none := by
  simp only [searchFrom?, searchIn?, List.take_length, Nat.le_refl, if_true, List.drop_length, scan?]
  exact matchAt?_eq_none (hend _ rfl)

/-- The first of all matches stands at the start of the text if the pattern matches there. -/
theorem head?_findAll {c : Char} {cs : List Char} {m : Match} (h : p.matchStart? (c :: cs) = some m) :
    (p.findAll (c :: cs)).head? = some m := by
  rw [matchStart?] at h
  rw [findAll, findFrom, h, List.head?_cons]

end Pattern

end SpringAtlas
