import SpringAtlas.Proofs.Pattern.Way

/-!
# `Proofs.Pattern.Run` — which way a pattern goes

Matching tries the ways of a pattern in order of preference, and what comes behind the pattern decides which of them
counts. Two statements about a place are enough to follow it on a text whose shape is known. `Takes p c d` says that
`p` at `c` goes to `d` whenever what comes behind accepts `d`, no matter what other ways there are. `Fails p c` says that
`p` has no way at `c` at all. Both are put together along the pattern: a sequence takes what its parts take one after
another, an alternative takes what its right side takes where its left side fails, a repetition takes as many steps as
there are. Of a pattern that can be passed over, `Idles p c` says that it has no other way at `c`.

## Contents
* `Pattern.Takes`, `Pattern.Fails`, `Pattern.Idles` — the preferred way, no way, and no way but to stay
* `takes_lit`, `takes_oneOf`, `takes_star`, … — the combinators
-/

namespace SpringAtlas

namespace Pattern

variable {p q : Pattern} {c d e : Cursor}

/-! ## The preferred way, and no way -/

/-- At `c` the pattern goes to `d`, if what comes behind accepts `d`. -/
def Takes (p : Pattern) (c d : Cursor) : Prop :=
  c.Fits → d.Fits ∧ ∀ (k : Next) (r : Cursor), k d = some r → p.run c k = some r

/-- The pattern does not match at `c`. -/
def Fails (p : Pattern) (c : Cursor) : Prop :=
  ∀ k, p.run c k = none

/-- Where a pattern goes, there is a way. -/
theorem Takes.way (h : Takes p c d) (hfit : c.Fits) : Way p c d := by
  classical
  obtain ⟨-, hrun⟩ := h hfit
  obtain ⟨e, hway, he⟩ := run_way (hrun (fun e => if e = d then some e else none) d (if_pos rfl))
  obtain ⟨rfl, -⟩ := Option.ite_none_right_eq_some.1 he
  exact hway

/-- At `c` the pattern reads nothing, and there is no other way. -/
def Idles (p : Pattern) (c : Cursor) : Prop :=
  ∀ k, p.run c k = k c

/-- A pattern that idles goes to where it is. -/
theorem Idles.takes (h : Idles p c) : Takes p c c :=
  fun hfit => ⟨hfit, fun k _ hk => (h k).trans hk⟩

/-- A sequence goes where its second part goes from where the first one went. -/
theorem Takes.seq (hp : Takes p c d) (hq : Takes q d e) : Takes (p ++ q) c e := by
  intro hfit
  obtain ⟨hd, hp⟩ := hp hfit
  obtain ⟨he, hq⟩ := hq hd
  exact ⟨he, fun k r hk => hp _ r (hq k r hk)⟩

/-- A sequence fails if its first part does. -/
theorem Fails.seq (h : Fails p c) : Fails (p ++ q) c :=
  fun _ => h _

/-- A sequence fails if its second part fails at every place that the first one can reach. -/
theorem fails_seq_of_reaches (h : ∀ d, c.Reaches d → Fails q d) : Fails (p ++ q) c := by
  intro k
  refine Option.eq_none_iff_forall_ne_some.2 fun r hr => ?_
  obtain ⟨d, hd, hq⟩ := run_reaches (p := p) hr
  rw [h d hd] at hq
  cases hq

/-- An alternative tries its first pattern, with all that comes behind, before the second one. -/
theorem run_alt (p q : Pattern) (c : Cursor) (k : Next) : (p <|> q).run c k = (p.run c k).or (q.run c k) := by
  show (alt p q).run c k = _
  rw [run]
  cases p.run c k <;> rfl

/-- An alternative goes where its first pattern goes. -/
theorem Takes.left (hp : Takes p c d) : Takes (p <|> q) c d := by
  intro hfit
  obtain ⟨hd, hp⟩ := hp hfit
  refine ⟨hd, fun k r hk => ?_⟩
  rw [run_alt, hp k r hk, Option.some_or]

/-- An alternative goes where its second pattern goes if the first one fails. -/
theorem Takes.right (hp : Fails p c) (hq : Takes q c d) : Takes (p <|> q) c d := by
  intro hfit
  obtain ⟨hd, hq⟩ := hq hfit
  refine ⟨hd, fun k r hk => ?_⟩
  rw [run_alt, hp k, Option.none_or]
  exact hq k r hk

/-- An alternative fails if both of its patterns do. -/
theorem Fails.alt (hp : Fails p c) (hq : Fails q c) : Fails (p <|> q) c := by
  intro k
  rw [run_alt, hp k, Option.none_or]
  exact hq k

/-- An optional pattern is taken where it can be. -/
theorem Takes.opt (h : Takes p c d) : Takes (opt p) c d :=
  Takes.left h

/-- A pattern that is missing is passed over. -/
theorem Fails.idles_opt (h : Fails p c) : Idles (opt p) c := by
  intro k
  show (p <|> Pattern.empty).run c k = k c
  rw [run_alt, h k, Option.none_or]
  rfl

/-- An optional pattern is left out where it fails. -/
theorem Fails.opt (h : Fails p c) : Takes (opt p) c c :=
  h.idles_opt.takes

/-- A group goes where its pattern goes and remembers the text in between. -/
theorem Takes.group (h : Takes p c d) (i : Nat) : Takes (group i p) c (d.capture i c.pos) := by
  intro hfit
  obtain ⟨hd, h⟩ := h hfit
  exact ⟨hd, fun k r hk => h _ r hk⟩

/-- A group fails if its pattern does. -/
theorem Fails.group (h : Fails p c) (i : Nat) : Fails (group i p) c :=
  fun _ => h _

/-! ## Places without a character -/

/-- A pattern that fails is not ahead. -/
theorem Fails.notAhead (h : Fails p c) : Takes (notAhead p) c c := by
  refine fun hfit => ⟨hfit, fun k r hk => ?_⟩
  show (if (p.run c some).isSome then none else k c) = some r
  rw [h]
  exact hk

/-- Where no character of the class is behind the place, nothing is read. -/
theorem takes_notBehind {ok : Char → Bool} (h : c.before.any ok = false) : Takes (notBehind ok) c c := by
  refine fun hfit => ⟨hfit, fun k r hk => ?_⟩
  show (if c.before.any ok then none else k c) = some r
  rw [h]
  exact hk

/-- A character of the class behind the place is refused. -/
theorem fails_notBehind {ok : Char → Bool} (h : c.before.any ok) : Fails (notBehind ok) c :=
  fun _ => if_pos h

/-- At an edge of a word nothing is read. -/
theorem takes_wordEdge (h : c.atWordEdge) : Takes wordEdge c c := by
  refine fun hfit => ⟨hfit, fun k r hk => ?_⟩
  show (if c.atWordEdge then k c else none) = some r
  rw [if_pos h, hk]

/-- Where there is no edge of a word, none is taken. -/
theorem fails_wordEdge (h : c.atWordEdge = false) : Fails wordEdge c :=
  fun _ => if_neg (by simp [h])

/-- Behind a word there is an edge exactly if no word character follows. -/
theorem atWordEdge_after {xs rest : List Char} (hxs : xs.getLast?.any Text.isWord) :
    (c.after xs rest).atWordEdge = !rest.head?.any Text.isWord := by
  obtain ⟨x, hx, hword⟩ := (Option.any_eq_true _ _).1 hxs
  simp [Cursor.atWordEdge, hx, hword]

/-- A text starts at position zero. -/
theorem takes_textStart (h : c.pos = 0) : Takes textStart c c := by
  refine fun hfit => ⟨hfit, fun k r hk => ?_⟩
  show (if c.pos == 0 then k c else none) = some r
  rw [if_pos (by simp [h]), hk]

/-- A text starts nowhere but at position zero. -/
theorem fails_textStart (h : c.pos ≠ 0) : Fails textStart c :=
  fun _ => if_neg (by simpa using h)

/-- A text ends where nothing is left. -/
theorem takes_lastLineEnd (h : c.rest = []) : Takes lastLineEnd c c := by
  refine fun hfit => ⟨hfit, fun k r hk => ?_⟩
  show (if c.atLastLineEnd then k c else none) = some r
  rw [if_pos (by simp [Cursor.atLastLineEnd, h]), hk]

/-- A condition on the place does not make a pattern match. -/
theorem Fails.notBehind_seq {ok : Char → Bool} (h : Fails p c) : Fails (notBehind ok ++ p) c := by
  intro k
  show (if c.before.any ok then none else p.run c k) = none
  rw [h k, ite_self]

/-- Behind an edge of a word a pattern fails where it fails at all, since the edge is at the same place. -/
theorem Fails.wordEdge_seq (h : Fails p c) : Fails (wordEdge ++ p) c := by
  intro k
  show (if c.atWordEdge then p.run c k else none) = none
  rw [h k, ite_self]

/-! ## Characters and fixed texts -/

/-- A class reads one character, and what comes behind goes on from there. -/
theorem run_one {ok : Char → Bool} {x : Char} {rest : List Char} (hrest : c.rest = x :: rest) (hx : ok x) (k : Next) :
    (one ok).run c k = k (c.after [x] rest) := by
  simp only [run, hrest, hx, if_true]
  rfl

/-- A class reads a character of the class. -/
theorem takes_one {ok : Char → Bool} {x : Char} {rest : List Char} (hrest : c.rest = x :: rest) (hx : ok x) :
    Takes (one ok) c (c.after [x] rest) := by
  refine fun hfit => ⟨hfit.after hrest, fun k r hk => ?_⟩
  rw [run_one hrest hx, hk]

/-- A class reads no other character. -/
theorem fails_one {ok : Char → Bool} (h : c.rest.head?.any ok = false) : Fails (one ok) c := by
  intro k
  cases hrest : c.rest with
  | nil => simp only [run, hrest]
  | cons x rest =>
    rw [hrest, List.head?_cons, Option.any_some] at h
    simp [run, hrest, h]

/-- The pattern of a fixed text has one way at most. -/
theorem run_chain_one (cs : List Char) (c : Cursor) (k : Next) :
    (chain (cs.map fun x => one (· == x))).run c k =
      if cs <+: c.rest then k (c.after cs (c.rest.drop cs.length)) else none := by
  induction cs generalizing c with
  | nil =>
    rw [if_pos List.nil_prefix]
    exact congrArg k c.after_nil.symm
  | cons x cs ih =>
    show ((one (· == x)).run c fun d => (chain (cs.map fun x => one (· == x))).run d k) = _
    cases hrest : c.rest with
    | nil => rw [fails_one (by simp [hrest]), if_neg (by simp)]
    | cons y rest =>
      by_cases hy : y = x
      · subst hy
        have hstep (k : Next) : (one (· == y)).run c k = k (c.after [y] rest) := by
          refine run_one hrest ?_ k
          exact beq_self_eq_true y
        rw [hstep, ih]
        simp [List.cons_prefix_cons, Cursor.after_after]
      · have hne : ¬ x = y := fun he => hy he.symm
        rw [fails_one (by simp [hrest, hy]), if_neg (by simp [List.cons_prefix_cons, hne])]

/-- A word is read at once, where the text goes on with it. -/
theorem run_lit (s : String) (c : Cursor) (k : Next) :
    (lit s).run c k =
      if s.toList <+: c.rest then k (c.after s.toList (c.rest.drop s.toList.length)) else none :=
  run_chain_one s.toList c k

/-- Where the text goes on with a word, the word is read. -/
theorem takes_lit (s : String) (rest : List Char) (hrest : c.rest = s.toList ++ rest) :
    Takes (lit s) c (c.after s.toList rest) := by
  refine fun hfit => ⟨hfit.after hrest, fun k r hk => ?_⟩
  rw [run_lit, if_pos ⟨rest, hrest.symm⟩, hrest, List.drop_left, hk]

/-- Where the text does not go on with a word, the word is not read. -/
theorem fails_lit {s : String} (h : ¬ s.toList <+: c.rest) : Fails (lit s) c := by
  intro k
  rw [run_lit, if_neg h]

/-- A fixed text and what has to follow it. -/
theorem fails_lit_seq {s : String} (h : ∀ rest, c.rest = s.toList ++ rest → Fails q (c.after s.toList rest)) :
    Fails (lit s ++ q) c := by
  intro k
  show (lit s).run c (fun d => q.run d k) = none
  rw [run_lit]
  split
  · next hprefix =>
    obtain ⟨rest, hrest⟩ := hprefix
    rw [← hrest, List.drop_left]
    exact h rest hrest.symm k
  · rfl

theorem run_anyOf_eq_none {ps : List Pattern} {k : Next} (h : ∀ p ∈ ps, p.run c k = none) :
    (anyOf ps).run c k = none := by
  induction ps with
  | nil => rfl
  | cons p ps ih =>
    cases ps with
    | nil => exact h p (by simp)
    | cons p' ps =>
      show (p <|> anyOf (p' :: ps)).run c k = none
      rw [run_alt, h p (by simp), Option.none_or]
      exact ih fun q hq => h q (List.mem_cons_of_mem _ hq)

/-- A choice of words fails where the text goes on with none of them. -/
theorem fails_oneOf {ss : List String} (h : ∀ s ∈ ss, ¬ s.toList <+: c.rest) : Fails (oneOf ss) c := by
  intro k
  refine run_anyOf_eq_none fun p hp => ?_
  obtain ⟨s, hs, rfl⟩ := List.mem_map.1 hp
  exact fails_lit (h s hs) k

/-- One of some texts and what has to follow it. -/
theorem fails_oneOf_seq {ss : List String}
    (h : ∀ s ∈ ss, ∀ rest, c.rest = s.toList ++ rest → Fails q (c.after s.toList rest)) :
    Fails (oneOf ss ++ q) c := by
  intro k
  show (oneOf ss).run c (fun d => q.run d k) = none
  refine run_anyOf_eq_none fun p hp => ?_
  obtain ⟨s, hs, rfl⟩ := List.mem_map.1 hp
  exact fails_lit_seq (h s hs) k

/-- Of some texts the first one that stands here is taken. -/
theorem takes_oneOf {ss : List String} (s : String) (rest : List Char) (hs : s ∈ ss)
    (hother : ∀ s' ∈ ss, s' ≠ s → ¬ s'.toList <+: c.rest) (hrest : c.rest = s.toList ++ rest) :
    Takes (oneOf ss) c (c.after s.toList rest) := by
  induction ss with
  | nil => simp at hs
  | cons s' ss ih =>
    cases ss with
    | nil =>
      obtain rfl := List.mem_singleton.1 hs
      exact takes_lit s rest hrest
    | cons s'' ss =>
      show Takes (lit s' <|> oneOf (s'' :: ss)) c _
      -- an earlier text would be preferred, but none of the others stands here
      by_cases he : s' = s
      · subst he
        exact Takes.left (takes_lit s' rest hrest)
      · have hs' : s ∈ s'' :: ss := (List.mem_cons.1 hs).resolve_left fun h => he h.symm
        exact Takes.right (fails_lit (hother s' (by simp) he))
          (ih hs' fun t ht => hother t (List.mem_cons_of_mem _ ht))

/-! ## Repetition -/

/-- A repetition of a pattern that fails reads nothing, and has no other way. -/
theorem Fails.idles_star (h : Fails p c) : Idles (star p) c := by
  intro k
  show repeatMore p.run k (c.stop - c.pos) c = k c
  cases c.stop - c.pos with
  | zero => rfl
  | succ n => rw [repeatMore, h]

/-- A repetition goes nowhere where its pattern fails. -/
theorem Fails.star (h : Fails p c) : Takes (star p) c c :=
  h.idles_star.takes

/-- Where a repetition can read one character, it first goes on behind it and then in front of it. -/
theorem run_star_one {ok : Char → Bool} {x : Char} {rest : List Char} (hfit : c.Fits) (hrest : c.rest = x :: rest) (hx : ok x)
    (hend : rest.head?.any ok = false) (k : Next) :
    (star (one ok)).run c k = (k (c.after [x] rest)).or (k c) := by
  have hroom : c.pos + (x :: rest).length = c.stop := hrest ▸ hfit
  obtain ⟨n, hn⟩ : ∃ n, c.stop - c.pos = n + 1 := ⟨rest.length, by rw [← hroom, List.length_cons]; omega⟩
  have hbehind : repeatMore (one ok).run k n (c.after [x] rest) = k (c.after [x] rest) := by
    have hfails : Fails (one ok) (c.after [x] rest) := fails_one hend
    cases n with
    | zero => rfl
    | succ n => rw [repeatMore, hfails]
  have hmoved : c.pos < (c.after [x] rest).pos := Nat.lt_succ_self c.pos
  show repeatMore (one ok).run k (c.stop - c.pos) c = _
  rw [hn, repeatMore, run_one hrest hx, if_pos hmoved, hbehind]
  cases k (c.after [x] rest) <;> rfl

/-- Pieces of a text that the body reads one after another are what a repetition reads, if the body fails behind them. By
    induction on the pieces, with any number of steps left that is enough for the rest of the text. -/
theorem repeatMore_pieces {ws : List (List Char)} {rest : List Char} {n : Nat} (hrest : c.rest = ws.flatten ++ rest)
    (hstep : ∀ w ∈ ws, w ≠ [] ∧ ∀ (d : Cursor) (rest' : List Char), d.rest = w ++ rest' → Takes p d (d.after w rest'))
    (hend : Fails p (c.after ws.flatten rest)) (hfit : c.Fits) (hn : c.stop - c.pos ≤ n) {k : Next} {r : Cursor}
    (hk : k (c.after ws.flatten rest) = some r) : repeatMore p.run k n c = some r := by
  induction ws generalizing c n with
  | nil =>
    obtain rfl : c.rest = rest := hrest
    rw [List.flatten_nil, c.after_nil] at hend hk
    cases n with
    | zero => exact hk
    | succ n =>
      rw [repeatMore, hend]
      exact hk
  | cons w ws ih =>
    obtain ⟨hne, hw⟩ := hstep w List.mem_cons_self
    rw [List.flatten_cons] at hrest hend hk
    rw [List.append_assoc] at hrest
    rw [← Cursor.after_after c w ws.flatten (ws.flatten ++ rest)] at hend hk
    have hlength : 0 < w.length := List.length_pos_iff.2 hne
    have htotal : c.pos + (w.length + (ws.flatten ++ rest).length) = c.stop := by
      rw [← List.length_append, ← hrest]
      exact hfit
    -- a step is left for this piece, and enough of them for the text behind it
    obtain ⟨m, rfl⟩ : ∃ m, n = m + 1 := ⟨n - 1, by omega⟩
    have hroom : c.stop - (c.pos + w.length) ≤ m := by omega
    have hlater : repeatMore p.run k m (c.after w (ws.flatten ++ rest)) = some r :=
      ih rfl (fun v hv => hstep v (List.mem_cons_of_mem _ hv)) hend (hfit.after hrest) hroom hk
    have hfirst := (hw c _ hrest hfit).2 (fun d => if c.pos < d.pos then repeatMore p.run k m d else none) r (by
      rw [if_pos (by simpa using hlength), hlater])
    rw [repeatMore, hfirst]

/-- **A repetition takes as many pieces as there are.** -/
theorem takes_star_pieces {ws : List (List Char)} {rest : List Char} (hrest : c.rest = ws.flatten ++ rest)
    (hstep : ∀ w ∈ ws, w ≠ [] ∧ ∀ (d : Cursor) (rest' : List Char), d.rest = w ++ rest' → Takes p d (d.after w rest'))
    (hend : Fails p (c.after ws.flatten rest)) : Takes (star p) c (c.after ws.flatten rest) :=
  fun hfit => ⟨hfit.after hrest, fun _ _ hk => repeatMore_pieces hrest hstep hend hfit (Nat.le_refl _) hk⟩

/-- A repetition reads all pieces, if its pattern reads each of them wherever it stands and fails behind the last
    one. -/
theorem takes_plus_pieces {ws : List (List Char)} {rest : List Char} (hrest : c.rest = ws.flatten ++ rest) (hne : ws ≠ [])
    (hstep : ∀ w ∈ ws, w ≠ [] ∧ ∀ (d : Cursor) (rest' : List Char), d.rest = w ++ rest' → Takes p d (d.after w rest'))
    (hend : Fails p (c.after ws.flatten rest)) : Takes (plus p) c (c.after ws.flatten rest) := by
  obtain ⟨w, ws, rfl⟩ := List.exists_cons_of_ne_nil hne
  rw [List.flatten_cons, List.append_assoc] at hrest
  rw [List.flatten_cons, ← Cursor.after_after c w ws.flatten (ws.flatten ++ rest)] at hend ⊢
  have hfirst := (hstep w List.mem_cons_self).2 c _ hrest
  exact hfirst.seq (takes_star_pieces rfl (fun v hv => hstep v (List.mem_cons_of_mem _ hv)) hend)

/-- A repetition over characters takes each of `xs`, if the body fails behind them. -/
theorem takes_star {xs rest : List Char} (hrest : c.rest = xs ++ rest)
    (hstep : ∀ {d : Cursor} {x : Char} {rest' : List Char}, x ∈ xs → d.rest = x :: rest' →
      Takes p d (d.after [x] rest'))
    (hend : Fails p (c.after xs rest)) : Takes (star p) c (c.after xs rest) := by
  have hpieces : (xs.map fun x => [x]).flatten = xs := List.flatMap_singleton' xs
  rw [← hpieces] at hrest hend ⊢
  refine takes_star_pieces hrest (fun w hw => ?_) hend
  obtain ⟨x, hx, rfl⟩ := List.mem_map.1 hw
  exact ⟨List.cons_ne_nil x [], fun d rest' hd => hstep hx hd⟩

/-- A repetition of a class reads to the first character that is not in the class. -/
theorem takes_star_one {ok : Char → Bool} (xs rest : List Char) (hrest : c.rest = xs ++ rest) (hall : ∀ x ∈ xs, ok x)
    (hend : rest.head?.any ok = false) : Takes (star (one ok)) c (c.after xs rest) :=
  takes_star hrest (fun hx hd => takes_one hd (hall _ hx)) (fails_one hend)

/-- A repetition that has to read something reads to the first character that is not in the class. -/
theorem takes_plus_one {ok : Char → Bool} (xs rest : List Char) (hrest : c.rest = xs ++ rest) (hne : xs ≠ [])
    (hall : ∀ x ∈ xs, ok x) (hend : rest.head?.any ok = false) : Takes (plus (one ok)) c (c.after xs rest) := by
  cases xs with
  | nil => exact absurd rfl hne
  | cons x xs =>
    rw [c.after_cons]
    exact Takes.seq (takes_one hrest (hall x (by simp)))
      (takes_star_one xs rest rfl (fun y hy => hall y (List.mem_cons_of_mem _ hy)) hend)

/-- A repetition that has to read something fails if its pattern does. -/
theorem fails_plus (h : Fails p c) : Fails (plus p) c :=
  Fails.seq h

/-- Where no blank comes, no blank is read. -/
theorem takes_blanks_nil (h : c.rest.head?.any Text.isBlank = false) : Takes blanks c c :=
  (fails_one h).star

/-- A single space where blanks have to stand. -/
theorem takes_blanks1_space (rest : List Char) (hrest : c.rest = ' ' :: rest)
    (hend : rest.head?.any Text.isBlank = false) : Takes blanks1 c (c.after [' '] rest) :=
  takes_plus_one [' '] rest hrest (by simp) (List.forall_mem_singleton.2 (by decide)) hend

end Pattern

end SpringAtlas
