import SpringAtlas.Proofs.Pattern.Capture

/-!
# `Proofs.Pattern.Occurrence` — where a pattern occurs in a text

A pattern occurs in a text if it has a way from one of its places, and every match that is found, first or later, stands at
a place where the pattern matches. So what holds of all ways of a pattern holds of all its matches, and whether a pattern
occurs can be said in terms of the text alone.

## Contents
* `Pattern.placeIn`, `occursIn_iff` — the places of a text
* `exists_matchAt?_of_mem_findAll`, `Apart.mem_findAll`, `OpensOnce`, `exists_way_of_mem_findAll` — all matches
* `StandsIn`, `Binds.standsIn`, `groupAvoids`, `StandsIn.not_mem_group` — what the groups of a match hold
* `way_lit_iff`, `way_oneOf_iff` — fixed texts
-/

namespace SpringAtlas

namespace Pattern

variable {p q : Pattern} {before : Option Char} {pos stop : Nat} {rest text : List Char} {m : Match}

/-! ## Places -/

/-- The place in a text behind `pre` and in front of `rest`. -/
def placeIn (pre rest : List Char) : Cursor :=
  ⟨pre.getLast?, pre.length, (pre ++ rest).length, rest, []⟩

/-- A place in a text fits the text. -/
theorem placeIn_fits (pre rest : List Char) : (placeIn pre rest).Fits := by
  simp [Cursor.Fits, placeIn]

theorem scan?_isSome_iff : (p.scan? stop before pos rest).isSome ↔
    ∃ pre post, rest = pre ++ post ∧
      (p.matchAt? (pre.getLast?.or before) (pos + pre.length) stop post).isSome := by
  constructor
  · intro h
    obtain ⟨m, hm⟩ := Option.isSome_iff_exists.1 h
    obtain ⟨pre, post, hrest, hmatch⟩ := exists_matchAt?_of_scan? hm
    exact ⟨pre, post, hrest, Option.isSome_iff_exists.2 ⟨m, hmatch⟩⟩
  · rintro ⟨pre, post, rfl, hmatch⟩
    induction pre generalizing before pos with
    | nil =>
      obtain ⟨m, hm⟩ := Option.isSome_iff_exists.1 hmatch
      exact Option.isSome_iff_exists.2 ⟨m, scan?_of_matchAt? hm⟩
    | cons x pre ih =>
      rw [List.cons_append, scan?]
      split
      · rfl
      · refine ih ?_
        rw [getLast?_cons_or, List.length_cons, Nat.add_comm pre.length, ← Nat.add_assoc] at hmatch
        exact hmatch

/-- **A pattern occurs in a text** if it has a way from one of its places. -/
theorem occursIn_iff : p.occursIn text ↔ ∃ pre post d, text = pre ++ post ∧ Way p (placeIn pre post) d := by
  rw [occursIn, search?, scan?_isSome_iff]
  refine exists_congr fun pre => ?_
  refine ⟨?_, ?_⟩
  · rintro ⟨post, rfl, hmatch⟩
    rw [Option.or_none, Nat.zero_add, matchAt?, Option.isSome_map] at hmatch
    obtain ⟨d, hd, -⟩ := (run_isSome_iff (placeIn_fits pre post)).1 hmatch
    exact ⟨post, d, rfl, hd⟩
  · rintro ⟨post, d, rfl, hd⟩
    refine ⟨post, rfl, ?_⟩
    rw [Option.or_none, Nat.zero_add, matchAt?, Option.isSome_map]
    exact (run_isSome_iff (placeIn_fits pre post)).2 ⟨d, hd, rfl⟩

/-- An alternative occurs if one of its patterns does. -/
theorem occursIn_alt : (p <|> q).occursIn text ↔ p.occursIn text ∨ q.occursIn text := by
  have hway : ∀ c d, Way (p <|> q) c d ↔ Way p c d ∨ Way q c d := fun _ _ => Iff.rfl
  simp only [occursIn_iff, hway, and_or_left, exists_or]

/-! ## All matches -/

theorem exists_matchAt?_of_mem_findFrom {skip : Nat} (h : m ∈ p.findFrom stop skip before pos rest) :
    ∃ pre post, rest = pre ++ post ∧ p.matchAt? (pre.getLast?.or before) (pos + pre.length) stop post = some m := by
  induction rest generalizing skip before pos with
  | nil => cases skip <;> cases h
  | cons x rest ih =>
    -- a later match is behind the first character
    have hlater : ∀ {skip : Nat}, m ∈ p.findFrom stop skip (some x) (pos + 1) rest →
        ∃ pre post, x :: rest = pre ++ post ∧
          p.matchAt? (pre.getLast?.or before) (pos + pre.length) stop post = some m := by
      intro skip h
      obtain ⟨pre, post, rfl, hmatch⟩ := ih h
      refine ⟨x :: pre, post, rfl, ?_⟩
      rw [getLast?_cons_or, List.length_cons, Nat.add_comm pre.length, ← Nat.add_assoc]
      exact hmatch
    cases skip with
    | succ skip => exact hlater h
    | zero =>
      rw [findFrom] at h
      split at h
      · next m' hmatch =>
        rcases List.mem_cons.1 h with rfl | h
        · exact ⟨[], x :: rest, rfl, hmatch⟩
        · exact hlater h
      · exact hlater h

/-- Every match in a text stands at one of its places. -/
theorem exists_matchAt?_of_mem_findAll (h : m ∈ p.findAll text) :
    ∃ pre post, text = pre ++ post ∧ p.matchAt? pre.getLast? pre.length (pre ++ post).length post = some m := by
  obtain ⟨pre, post, rfl, hmatch⟩ := exists_matchAt?_of_mem_findFrom h
  rw [Option.or_none, Nat.zero_add] at hmatch
  exact ⟨pre, post, rfl, hmatch⟩

/-- No match of the pattern reaches over the start of another one. -/
def Apart (p : Pattern) : Prop :=
  ∀ {before before' : Option Char} {pos stop : Nat} {xs rest : List Char} {m m' : Match}, xs ≠ [] →
    p.matchAt? before pos stop (xs ++ rest) = some m → p.matchAt? before' (pos + xs.length) stop rest = some m' →
    m.stop ≤ pos + xs.length

theorem Apart.mem_findFrom (hp : p.Apart) {skip : Nat} {pre post : List Char} (hpost : post ≠ [])
    (hskip : skip ≤ pre.length) (h : p.matchAt? (pre.getLast?.or before) (pos + pre.length) stop post = some m) :
    m ∈ p.findFrom stop skip before pos (pre ++ post) := by
  induction pre generalizing skip before pos with
  | nil =>
    obtain ⟨x, post, rfl⟩ := List.exists_cons_of_ne_nil hpost
    obtain rfl : skip = 0 := Nat.le_zero.1 hskip
    change p.matchAt? before pos stop (x :: post) = some m at h
    rw [List.nil_append, findFrom, h]
    exact List.mem_cons_self
  | cons x pre ih =>
    -- the match lies behind the first character, where the search goes on
    have hlater : ∀ {skip : Nat}, skip ≤ pre.length → m ∈ p.findFrom stop skip (some x) (pos + 1) (pre ++ post) := by
      intro skip hskip
      apply ih hskip
      rw [getLast?_cons_or, List.length_cons, Nat.add_comm pre.length, ← Nat.add_assoc] at h
      exact h
    cases skip with
    | succ skip => exact hlater (Nat.le_of_succ_le_succ hskip)
    | zero =>
      rw [List.cons_append, findFrom]
      split
      · next m' hmatch =>
        apply List.mem_cons_of_mem
        apply hlater
        have hstop : m'.stop ≤ pos + (x :: pre).length := hp (List.cons_ne_nil x pre) hmatch h
        rw [List.length_cons] at hstop
        omega
      · exact hlater (Nat.zero_le _)

/-- **Every match is found** if no match reaches over the start of another one. -/
theorem Apart.mem_findAll (hp : p.Apart) {pre post : List Char} (hpost : post ≠ [])
    (h : p.matchAt? pre.getLast? pre.length (pre ++ post).length post = some m) : m ∈ p.findAll (pre ++ post) := by
  apply hp.mem_findFrom hpost (Nat.zero_le _)
  rw [Option.or_none, Nat.zero_add]
  exact h

/-- Every match of the pattern starts with `a` and holds no other `a`. -/
def OpensOnce (p : Pattern) (a : Char) : Prop :=
  ∀ {before : Option Char} {pos stop : Nat} {rest : List Char} {m : Match}, p.matchAt? before pos stop rest = some m →
    ∃ word post, rest = a :: (word ++ post) ∧ a ∉ word ∧ m.stop = pos + 1 + word.length

/-- A character that a text does not hold stands behind it. -/
theorem exists_append_of_not_mem {α : Type} {a : α} {word rest xs ys : List α} (ha : a ∉ word)
    (h : word ++ rest = xs ++ a :: ys) : ∃ zs, xs = word ++ zs ∧ rest = zs ++ a :: ys := by
  rcases List.append_eq_append_iff.1 h with hlonger | ⟨zs, rfl, hrest⟩
  · exact hlonger
  · cases zs with
    | nil => exact ⟨[], by simp, hrest.symm⟩
    | cons z zs =>
      obtain rfl : a = z := (List.cons.inj hrest).1
      exact absurd (List.mem_append_right xs List.mem_cons_self) ha

theorem OpensOnce.apart {a : Char} (hp : p.OpensOnce a) : p.Apart := by
  intro before before' pos stop xs rest m m' hxs hm hm'
  obtain ⟨x, xs, rfl⟩ := List.exists_cons_of_ne_nil hxs
  obtain ⟨word, post, hrest, hword, hstop⟩ := hp hm
  obtain ⟨word', post', rfl, -⟩ := hp hm'
  -- a match that reached over `rest` would hold the character that opens it
  obtain ⟨zs, rfl, -⟩ := exists_append_of_not_mem hword (List.cons.inj hrest).2.symm
  rw [hstop, List.length_cons, List.length_append]
  omega

/-- Where every match starts with a character that it does not hold again, the matches at all places are found. -/
theorem OpensOnce.mem_findAll {a : Char} (hp : p.OpensOnce a) {pre post : List Char}
    (h : p.matchAt? pre.getLast? pre.length (pre ++ post).length post = some m) : m ∈ p.findAll (pre ++ post) := by
  have hapart : p.Apart := hp.apart
  obtain ⟨word, post', rfl, -⟩ := hp h
  exact hapart.mem_findAll (List.cons_ne_nil a _) h

/-- A match among all matches has a way from the place where it starts. -/
theorem exists_way_of_mem_findAll (h : m ∈ p.findAll text) :
    ∃ pre post d, text = pre ++ post ∧ Way p (placeIn pre post) d := by
  obtain ⟨pre, post, rfl, hmatch⟩ := exists_matchAt?_of_mem_findAll h
  obtain ⟨d, hrun, -⟩ := Option.map_eq_some_iff.1 hmatch
  obtain ⟨d', hd', -⟩ := run_way hrun
  exact ⟨pre, post, d', rfl, hd'⟩

/-! ## Groups of matches -/

/-- A match of the pattern at a place of the text, however it was found. -/
def StandsIn (p : Pattern) (text : List Char) (m : Match) : Prop :=
  ∃ before pre post stop, text = pre ++ post ∧ p.matchAt? before pre.length stop post = some m

/-- A match that is found among all matches stands in the text. -/
theorem standsIn_of_mem_findAll (h : m ∈ p.findAll text) : p.StandsIn text m := by
  obtain ⟨pre, post, htext, hmatch⟩ := exists_matchAt?_of_mem_findAll h
  exact ⟨_, pre, post, _, htext, hmatch⟩

/-- The leftmost match stands in the text. -/
theorem standsIn_of_search? (h : p.search? text = some m) : p.StandsIn text m := by
  obtain ⟨pre, post, htext, hmatch⟩ := exists_matchAt?_of_scan? h
  rw [Nat.zero_add] at hmatch
  exact ⟨_, pre, post, _, htext, hmatch⟩

/-- A match at the start of a text stands in it. -/
theorem standsIn_of_matchStart? (h : p.matchStart? text = some m) : p.StandsIn text m :=
  ⟨none, [], text, text.length, rfl, h⟩

/-- The leftmost match behind an offset stands in the text. -/
theorem standsIn_of_searchFrom? {start : Nat} (h : p.searchFrom? text start = some m) : p.StandsIn text m := by
  unfold searchFrom? searchIn? at h
  simp only [List.take_length, Option.ite_none_right_eq_some] at h
  obtain ⟨hstart, h⟩ := h
  obtain ⟨pre, post, hdrop, hmatch⟩ := exists_matchAt?_of_scan? h
  have htext : text = text.take start ++ pre ++ post := by
    rw [List.append_assoc, ← hdrop, List.take_append_drop]
  have hlength : (text.take start ++ pre).length = start + pre.length := by
    rw [List.length_append, List.length_take, Nat.min_eq_left hstart]
  rw [← hlength] at hmatch
  exact ⟨_, _, post, _, htext, hmatch⟩

/-- A group of a match stands in the text, and its pattern reads it. -/
theorem Binds.exists_group {i : Nat} {P : List Char → Prop} (h : Binds p i P) (hm : p.StandsIn text m) :
    P (m.group text i) ∧ ∃ pre post, text = pre ++ (m.group text i ++ post) := by
  obtain ⟨before, pre, post, stop, rfl, hmatch⟩ := hm
  obtain ⟨pre', word, post', rfl, hP, hspan⟩ := h.matchAt? hmatch
  have hgroup : m.group (pre ++ (pre' ++ word ++ post')) i = word := by
    refine Match.group_eq (pre ++ pre') post' (by simp) ?_
    rw [hspan, List.length_append]
  rw [hgroup]
  exact ⟨hP, pre ++ pre', post', by simp⟩

/-- The group of a match that stands in a text has the property that its pattern gives it. -/
theorem Binds.standsIn {i : Nat} {P : List Char → Prop} (h : Binds p i P) (hm : p.StandsIn text m) :
    P (m.group text i) :=
  (h.exists_group hm).1

/-- No class of characters in the patterns of group `i` holds `a`. -/
def groupAvoids (i : Nat) (a : Char) : Pattern → Bool
  | seq p q | alt p q => groupAvoids i a p && groupAvoids i a q
  | star p | lazyStar p => groupAvoids i a p
  | group j p => (j != i || avoids a p) && groupAvoids i a p
  | _ => true

/-- Whatever was captured as group `i` on the way from `c` to `d` is a text of `c` without `a`. -/
def CapturesWithout (i : Nat) (a : Char) (c d : Cursor) : Prop :=
  ∀ g ∈ d.captures, g.index = i → g ∈ c.captures ∨ ∃ pre word post, c.rest = pre ++ word ++ post ∧
    g.start = c.pos + pre.length ∧ g.stop = c.pos + pre.length + word.length ∧ a ∉ word

/-- What is captured on two ways, one behind the other, is captured on one of them. -/
theorem CapturesWithout.trans {i : Nat} {a : Char} {c d e : Cursor} (hreach : c.Reaches d)
    (h : CapturesWithout i a c d) (h' : CapturesWithout i a d e) : CapturesWithout i a c e := by
  intro g hg hi
  rcases h' g hg hi with hg | ⟨pre, word, post, hrest, hstart, hstop, hword⟩
  · exact h g hg hi
  · obtain ⟨xs, hxs, hpos, -⟩ := hreach
    refine Or.inr ⟨xs ++ pre, word, post, ?_, ?_, ?_, hword⟩
    · rw [hxs, hrest]
      simp only [List.append_assoc]
    · rw [hstart, hpos, List.length_append, Nat.add_assoc]
    · rw [hstop, hpos, List.length_append, Nat.add_assoc c.pos]

theorem Way.capturesWithout {i : Nat} {a : Char} (hp : p.groupAvoids i a) {c d : Cursor} (h : Way p c d) :
    CapturesWithout i a c d := by
  induction p generalizing c d with
  | one ok =>
    obtain ⟨x, rest, -, -, rfl⟩ := h
    exact fun g hg _ => Or.inl hg
  | seq p q ihp ihq =>
    obtain ⟨e, hd, he⟩ := h
    obtain ⟨hp, hq⟩ := Bool.and_eq_true_iff.1 hp
    exact (ihp hp hd).trans hd.reaches (ihq hq he)
  | alt p q ihp ihq =>
    obtain ⟨hp, hq⟩ := Bool.and_eq_true_iff.1 hp
    rcases h with h | h
    · exact ihp hp h
    · exact ihq hq h
  | star p ih | lazyStar p ih =>
    change Relation.ReflTransGen _ c d at h
    induction h with
    | refl => exact fun g hg _ => Or.inl hg
    | tail hsteps hstep ihsteps =>
      have hreaches : Way (star p) c _ := hsteps
      exact ihsteps.trans hreaches.reaches (ih hp hstep.1)
  | group j p ih =>
    obtain ⟨d', hd', rfl⟩ := h
    obtain ⟨hgroup, hp⟩ := Bool.and_eq_true_iff.1 hp
    intro g hg hi
    rw [Cursor.capture_captures] at hg
    rcases List.mem_cons.1 hg with rfl | hg
    · -- the group captures the text that its pattern has read
      have havoids : p.avoids a = true := by
        rcases Bool.or_eq_true_iff.1 hgroup with hne | havoids
        · exact absurd hi (by simpa using hne)
        · exact havoids
      obtain ⟨xs, hrest, hpos, hxs⟩ := hd'.not_mem_of_avoids havoids
      refine Or.inr ⟨[], xs, d'.rest, hrest, rfl, ?_, hxs⟩
      simpa using hpos
    · exact ih hp hd' g hg hi
  | empty =>
    obtain rfl := h
    exact fun g hg _ => Or.inl hg
  | notAhead | notBehind | wordEdge | textStart | lineStart | lastLineEnd =>
    obtain ⟨-, rfl⟩ := h
    exact fun g hg _ => Or.inl hg

/-- A group holds no character that none of its classes lets through. -/
theorem StandsIn.not_mem_group {i : Nat} {a : Char} (hp : p.groupAvoids i a) (h : p.StandsIn text m) :
    a ∉ m.group text i := by
  obtain ⟨before, pre, post, stop, rfl, hmatch⟩ := h
  obtain ⟨d, hrun, rfl⟩ := Option.map_eq_some_iff.1 hmatch
  obtain ⟨d', hway, hd'⟩ := run_way hrun
  cases hd'
  cases hfind : d.captures.find? fun g => g.index == i with
  | none =>
    have hgroup : Match.group ⟨pre.length, d.pos, d.captures⟩ (pre ++ post) i = [] := by
      simp [Match.group, Match.group?, Match.span?, hfind]
    rw [hgroup]
    exact List.not_mem_nil
  | some g =>
    have hindex : g.index = i := by simpa using List.find?_some hfind
    rcases hway.capturesWithout hp g (List.mem_of_find?_eq_some hfind) hindex with hg | hcaptured
    · cases hg
    · obtain ⟨pre', word, post', hrest, hstart, hstop, hword⟩ := hcaptured
      change post = _ at hrest
      change g.start = pre.length + _ at hstart
      change g.stop = pre.length + _ + _ at hstop
      have hgroup : Match.group ⟨pre.length, d.pos, d.captures⟩ (pre ++ post) i = word := by
        refine Match.group_eq (pre ++ pre') post' (by rw [hrest]; simp) ?_
        simp [Match.span?, hfind, hstart, hstop]
      rw [hgroup]
      exact hword

/-! ## Fixed texts -/

theorem way_chain_one_iff {cs : List Char} {c d : Cursor} :
    Way (chain (cs.map fun x => one (· == x))) c d ↔ ∃ rest, c.rest = cs ++ rest ∧ d = c.after cs rest := by
  refine ⟨way_chain_one, ?_⟩
  rintro ⟨rest, hrest, rfl⟩
  induction cs generalizing c with
  | nil =>
    rw [List.nil_append] at hrest
    rw [← hrest, c.after_nil]
    rfl
  | cons x cs ih =>
    have hlater := ih (c.after_rest [x] (cs ++ rest))
    rw [← c.after_cons] at hlater
    exact ⟨c.after [x] (cs ++ rest), ⟨x, cs ++ rest, hrest, by simp, rfl⟩, hlater⟩

/-- A word is read where it stands, and the place behind it is the only one. -/
theorem way_lit_iff {s : String} {c d : Cursor} :
    Way (lit s) c d ↔ ∃ rest, c.rest = s.toList ++ rest ∧ d = c.after s.toList rest :=
  way_chain_one_iff

theorem way_anyOf_iff {ps : List Pattern} {c d : Cursor} (hne : ps ≠ []) :
    Way (anyOf ps) c d ↔ ∃ p ∈ ps, Way p c d := by
  induction ps with
  | nil => exact absurd rfl hne
  | cons p ps ih =>
    cases ps with
    | nil => simp [anyOf]
    | cons p' ps =>
      show Way p c d ∨ Way (anyOf (p' :: ps)) c d ↔ _
      rw [ih (List.cons_ne_nil p' ps)]
      simp only [List.mem_cons, exists_eq_or_imp]

/-- A choice of words is read as one of them. -/
theorem way_oneOf_iff {ss : List String} {c d : Cursor} (hne : ss ≠ []) :
    Way (oneOf ss) c d ↔ ∃ s ∈ ss, Way (lit s) c d := by
  rw [oneOf, way_anyOf_iff (by simpa using hne)]
  constructor
  · rintro ⟨p, hp, hd⟩
    obtain ⟨s, hs, rfl⟩ := List.mem_map.1 hp
    exact ⟨s, hs, hd⟩
  · rintro ⟨s, hs, hd⟩
    exact ⟨lit s, List.mem_map_of_mem hs, hd⟩

end Pattern

end SpringAtlas
