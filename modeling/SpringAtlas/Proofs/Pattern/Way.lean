import Mathlib.Logic.Relation
import SpringAtlas.Pattern.Search

/-!
# `Proofs.Pattern.Way` — the ways of a pattern

Matching explores the ways of a pattern one after another. `Way p c d` says, without the order, that `p` leads from `c`
to `d`. Matching is sound and complete for it: it succeeds exactly if what comes behind the pattern accepts the end of
some way (`run_isSome_iff`).

What a way does is then shown without looking at the search: every way leads further on in the text, it keeps what the
single moves of the pattern keep, and a pattern that looks at most one character ahead has the same ways whatever
comes later in the text.

## Contents
* `Cursor.after`, `Cursor.capture`, `Cursor.Fits`, `Cursor.Reaches` — places further on in a text
* `Pattern.Way`, `run_way`, `Way.run`, `run_isSome_iff` — ways and the search for them
* `Pattern.Moves`, `Way.related`, `run_related`, `run_reaches` — what every way keeps
* `Pattern.avoids`, `Way.not_mem_of_avoids` — characters that are not passed
* `Pattern.isLocal`, `Way.relocate` — ways do not depend on what comes later
-/

namespace SpringAtlas

/-! ## Places -/

namespace Cursor

/-- The place behind `xs`, with `rest` still to come. -/
def after (c : Cursor) (xs rest : List Char) : Cursor :=
  { c with before := xs.getLast?.or c.before, pos := c.pos + xs.length, rest := rest }

/-- The place with the text since `start` remembered as group `i`. -/
def capture (c : Cursor) (i start : Nat) : Cursor :=
  { c with captures := ⟨i, start, c.pos⟩ :: c.captures }

@[simp] theorem after_before (c : Cursor) (xs rest : List Char) :
    (c.after xs rest).before = xs.getLast?.or c.before := rfl

@[simp] theorem after_pos (c : Cursor) (xs rest : List Char) : (c.after xs rest).pos = c.pos + xs.length := rfl

@[simp] theorem after_stop (c : Cursor) (xs rest : List Char) : (c.after xs rest).stop = c.stop := rfl

@[simp] theorem after_rest (c : Cursor) (xs rest : List Char) : (c.after xs rest).rest = rest := rfl

@[simp] theorem after_captures (c : Cursor) (xs rest : List Char) : (c.after xs rest).captures = c.captures := rfl

@[simp] theorem capture_before (c : Cursor) (i start : Nat) : (c.capture i start).before = c.before := rfl

@[simp] theorem capture_pos (c : Cursor) (i start : Nat) : (c.capture i start).pos = c.pos := rfl

@[simp] theorem capture_stop (c : Cursor) (i start : Nat) : (c.capture i start).stop = c.stop := rfl

@[simp] theorem capture_rest (c : Cursor) (i start : Nat) : (c.capture i start).rest = c.rest := rfl

@[simp] theorem capture_captures (c : Cursor) (i start : Nat) :
    (c.capture i start).captures = ⟨i, start, c.pos⟩ :: c.captures := rfl

/-- Behind no text there is the place itself. -/
theorem after_nil (c : Cursor) : c.after [] c.rest = c := by
  simp [after]

/-- Behind two texts, one after the other, there is the place behind both. -/
theorem after_after (c : Cursor) (xs ys rest rest' : List Char) :
    (c.after xs rest).after ys rest' = c.after (xs ++ ys) rest' := by
  simp [after, List.getLast?_append, Option.or_assoc, Nat.add_assoc]

/-- The place behind a text, with its first character read on its own. -/
theorem after_cons (c : Cursor) (x : Char) (xs rest : List Char) :
    c.after (x :: xs) rest = (c.after [x] (xs ++ rest)).after xs rest := by
  rw [after_after, List.singleton_append]

/-- The text that is left ends where the text ends. -/
def Fits (c : Cursor) : Prop :=
  c.pos + c.rest.length = c.stop

/-- Places behind a part of what is left fit the text too. -/
theorem Fits.after {c : Cursor} (h : c.Fits) {xs rest : List Char} (hrest : c.rest = xs ++ rest) :
    (c.after xs rest).Fits := by
  unfold Fits at h ⊢
  rw [hrest, List.length_append] at h
  simp only [after_pos, after_rest, after_stop]
  omega

/-- The place `d` lies further on in the text of `c`, or at the same place. -/
def Reaches (c d : Cursor) : Prop :=
  ∃ xs, c.rest = xs ++ d.rest ∧ d.pos = c.pos + xs.length ∧ d.stop = c.stop ∧ d.before = xs.getLast?.or c.before

/-- Every place reaches itself. -/
theorem Reaches.refl (c : Cursor) : c.Reaches c :=
  ⟨[], by simp⟩

/-- What is reached from a place that is reached is reached. -/
theorem Reaches.trans {c d e : Cursor} (h : c.Reaches d) (h' : d.Reaches e) : c.Reaches e := by
  obtain ⟨xs, hrest, hpos, hstop, hbefore⟩ := h
  obtain ⟨ys, hrest', hpos', hstop', hbefore'⟩ := h'
  refine ⟨xs ++ ys, by rw [hrest, hrest', List.append_assoc], ?_, hstop'.trans hstop, ?_⟩
  · rw [hpos', hpos, List.length_append, Nat.add_assoc]
  · rw [hbefore', hbefore, List.getLast?_append, Option.or_assoc]

theorem Reaches.stop_eq {c d : Cursor} (h : c.Reaches d) : d.stop = c.stop := by
  obtain ⟨xs, -, -, hstop, -⟩ := h
  exact hstop

/-- Places that are reached fit the text. -/
theorem Reaches.fits {c d : Cursor} (h : c.Reaches d) (hfit : c.Fits) : d.Fits := by
  obtain ⟨xs, hrest, hpos, hstop, -⟩ := h
  unfold Fits at hfit ⊢
  rw [hrest, List.length_append] at hfit
  omega

/-- A place in between splits the text that is read. -/
theorem Reaches.split {c d e : Cursor} {xs rest : List Char} (h : c.Reaches e) (h' : e.Reaches d)
    (hc : c.rest = xs ++ rest) (hd : d.rest = rest) : ∃ us vs, xs = us ++ vs ∧ e.rest = vs ++ rest := by
  obtain ⟨us, hus, -⟩ := h
  obtain ⟨vs, hvs, -⟩ := h'
  rw [hd] at hvs
  refine ⟨us, vs, ?_, hvs⟩
  rw [hc, hvs, ← List.append_assoc] at hus
  exact List.append_cancel_right hus

/-- The place with another text to come, which ends at `stop`. -/
def facing (c : Cursor) (rest : List Char) (stop : Nat) : Cursor :=
  { c with rest, stop }

@[simp] theorem facing_before (c : Cursor) (rest : List Char) (stop : Nat) : (c.facing rest stop).before = c.before :=
  rfl

@[simp] theorem facing_pos (c : Cursor) (rest : List Char) (stop : Nat) : (c.facing rest stop).pos = c.pos := rfl

@[simp] theorem facing_rest (c : Cursor) (rest : List Char) (stop : Nat) : (c.facing rest stop).rest = rest := rfl

end Cursor

namespace Pattern

variable {p q : Pattern} {c d e r : Cursor} {k : Next}

/-! ## Ways -/

/-- The pattern leads from one place to another. -/
def Way : Pattern → Cursor → Cursor → Prop
  | empty, c, d => d = c
  | one ok, c, d => ∃ x rest, c.rest = x :: rest ∧ ok x ∧ d = c.after [x] rest
  | seq p q, c, e => ∃ d, Way p c d ∧ Way q d e
  | alt p q, c, d => Way p c d ∨ Way q c d
  | star p, c, d | lazyStar p, c, d => Relation.ReflTransGen (fun a b => Way p a b ∧ a.pos < b.pos) c d
  | group i p, c, d => ∃ d', Way p c d' ∧ d = d'.capture i c.pos
  | notAhead p, c, d => p.run c some = none ∧ d = c
  | notBehind ok, c, d => c.before.any ok = false ∧ d = c
  | wordEdge, c, d => c.atWordEdge ∧ d = c
  | textStart, c, d => c.pos = 0 ∧ d = c
  | lineStart, c, d => c.atLineStart ∧ d = c
  | lastLineEnd, c, d => c.atLastLineEnd ∧ d = c

theorem repeatMore_way (hp : ∀ {c : Cursor} {k : Next} {r : Cursor}, p.run c k = some r → ∃ d, Way p c d ∧ k d = some r)
    {n : Nat} (h : repeatMore p.run k n c = some r) : ∃ d, Way (star p) c d ∧ k d = some r := by
  induction n generalizing c with
  | zero => exact ⟨c, .refl, h⟩
  | succ n ih =>
    rw [repeatMore] at h
    split at h
    · next hrun =>
      cases h
      obtain ⟨d, hd, hk⟩ := hp hrun
      -- a step that stays in its place is not taken
      split at hk
      · next hmoved =>
        obtain ⟨e, he, hk⟩ := ih hk
        exact ⟨e, .head ⟨hd, hmoved⟩ he, hk⟩
      · cases hk
    · exact ⟨c, .refl, h⟩

theorem repeatLess_way (hp : ∀ {c : Cursor} {k : Next} {r : Cursor}, p.run c k = some r → ∃ d, Way p c d ∧ k d = some r)
    {n : Nat} (h : repeatLess p.run k n c = some r) : ∃ d, Way (lazyStar p) c d ∧ k d = some r := by
  induction n generalizing c with
  | zero => exact ⟨c, .refl, h⟩
  | succ n ih =>
    rw [repeatLess] at h
    split at h
    · next hk =>
      cases h
      exact ⟨c, .refl, hk⟩
    · obtain ⟨d, hd, hk⟩ := hp h
      split at hk
      · next hmoved =>
        obtain ⟨e, he, hk⟩ := ih hk
        exact ⟨e, .head ⟨hd, hmoved⟩ he, hk⟩
      · cases hk

/-- **Matching is sound**: where it succeeds, a way leads to a place that is accepted. -/
theorem run_way (h : p.run c k = some r) : ∃ d, Way p c d ∧ k d = some r := by
  induction p generalizing c k r with
  | empty => exact ⟨c, rfl, h⟩
  | one ok =>
    rw [run] at h
    split at h
    · next x rest hrest =>
      split at h
      · next hok => exact ⟨_, ⟨x, rest, hrest, hok, rfl⟩, h⟩
      · cases h
    · cases h
  | seq p q ihp ihq =>
    obtain ⟨d, hd, h⟩ := ihp h
    obtain ⟨e, he, h⟩ := ihq h
    exact ⟨e, ⟨d, hd, he⟩, h⟩
  | alt p q ihp ihq =>
    rw [run] at h
    split at h
    · next hrun =>
      cases h
      obtain ⟨d, hd, h⟩ := ihp hrun
      exact ⟨d, Or.inl hd, h⟩
    · obtain ⟨d, hd, h⟩ := ihq h
      exact ⟨d, Or.inr hd, h⟩
  | star p ih => exact repeatMore_way ih h
  | lazyStar p ih => exact repeatLess_way ih h
  | group i p ih =>
    obtain ⟨d, hd, h⟩ := ih h
    exact ⟨_, ⟨d, hd, rfl⟩, h⟩
  | notAhead p _ =>
    rw [run] at h
    split at h
    · cases h
    · next hnone => exact ⟨c, ⟨Option.not_isSome_iff_eq_none.1 hnone, rfl⟩, h⟩
  | notBehind ok =>
    rw [run] at h
    split at h
    · cases h
    · next hbefore => exact ⟨c, ⟨by simpa using hbefore, rfl⟩, h⟩
  | textStart =>
    rw [run] at h
    split at h
    · next hpos => exact ⟨c, ⟨by simpa using hpos, rfl⟩, h⟩
    · cases h
  | wordEdge | lineStart | lastLineEnd =>
    rw [run] at h
    split at h
    · next hplace => exact ⟨c, ⟨hplace, rfl⟩, h⟩
    · cases h

/-- A chain of single characters reads the text that they make. -/
theorem way_chain_one {cs : List Char} (h : Way (chain (cs.map fun x => one (· == x))) c d) :
    ∃ rest, c.rest = cs ++ rest ∧ d = c.after cs rest := by
  induction cs generalizing c with
  | nil =>
    obtain rfl : d = c := h
    exact ⟨d.rest, rfl, (d.after_nil).symm⟩
  | cons x cs ih =>
    obtain ⟨e, ⟨y, rest, hrest, hy, rfl⟩, h⟩ := h
    obtain ⟨rest', hrest', rfl⟩ := ih h
    obtain rfl : y = x := by simpa using hy
    obtain rfl : rest = cs ++ rest' := hrest'
    exact ⟨rest', hrest, (c.after_cons y cs rest').symm⟩

/-- A fixed text has one way at most. -/
theorem way_lit {s : String} (h : Way (lit s) c d) : ∃ rest, c.rest = s.toList ++ rest ∧ d = c.after s.toList rest :=
  way_chain_one h

/-- A repeated character has a way over each text of its class. -/
theorem way_star_one {ok : Char → Bool} (h : Way (star (one ok)) c d) :
    ∃ xs rest, c.rest = xs ++ rest ∧ (∀ x ∈ xs, ok x) ∧ d = c.after xs rest := by
  change Relation.ReflTransGen _ c d at h
  induction h with
  | refl => exact ⟨[], c.rest, rfl, by simp, c.after_nil.symm⟩
  | tail _ hstep ih =>
    obtain ⟨xs, rest, hrest, hxs, rfl⟩ := ih
    obtain ⟨⟨x, rest', hrest', hx, rfl⟩, -⟩ := hstep
    obtain rfl : rest = x :: rest' := hrest'
    exact ⟨xs ++ [x], rest', by simp [hrest], by simpa [or_imp, forall_and] using ⟨hxs, hx⟩, c.after_after xs [x] _ _⟩

/-! ## What every way keeps

A pattern moves by reading characters and by remembering groups. What holds of these two moves, of standing still and
of going on from where one has arrived, holds of every way through the pattern. -/

/-- The characters that `p` reads and the groups that it remembers lead from a place to a related one. -/
def Moves (R : Cursor → Cursor → Prop) : Pattern → Prop
  | one ok => ∀ (c : Cursor) (x : Char) (rest : List Char), c.rest = x :: rest → ok x → R c (c.after [x] rest)
  | seq p q | alt p q => Moves R p ∧ Moves R q
  | star p | lazyStar p => Moves R p
  | group i p => Moves R p ∧ ∀ c d : Cursor, R c d → R c (d.capture i c.pos)
  | _ => True

/-- **What the moves of a pattern keep, every way through it keeps.** -/
theorem Way.related {R : Cursor → Cursor → Prop} (hrefl : ∀ c, R c c) (htrans : ∀ {c d e}, R c d → R d e → R c e)
    (hp : Moves R p) (h : Way p c d) : R c d := by
  induction p generalizing c d with
  | one ok =>
    obtain ⟨x, rest, hrest, hok, rfl⟩ := h
    exact hp c x rest hrest hok
  | seq p q ihp ihq =>
    obtain ⟨e, he, hd⟩ := h
    exact htrans (ihp hp.1 he) (ihq hp.2 hd)
  | alt p q ihp ihq => exact h.elim (ihp hp.1) (ihq hp.2)
  | star p ih | lazyStar p ih =>
    induction h with
    | refl => exact hrefl c
    | tail _ hstep hpre => exact htrans hpre (ih hp hstep.1)
  | group i p ih =>
    obtain ⟨d, hd, rfl⟩ := h
    exact hp.2 c d (ih hp.1 hd)
  | empty =>
    obtain rfl := h
    exact hrefl _
  | notAhead | notBehind | wordEdge | textStart | lineStart | lastLineEnd =>
    obtain ⟨-, rfl⟩ := h
    exact hrefl _

/-- A run ends where its pattern moves, and what comes behind accepts that place. -/
theorem run_related {R : Cursor → Cursor → Prop} (hrefl : ∀ c, R c c) (htrans : ∀ {c d e}, R c d → R d e → R c e)
    (hp : Moves R p) (h : p.run c k = some r) : ∃ d, R c d ∧ k d = some r := by
  obtain ⟨d, hd, hk⟩ := run_way h
  exact ⟨d, hd.related hrefl htrans hp, hk⟩

theorem moves_reaches (p : Pattern) : Moves Cursor.Reaches p := by
  induction p with
  | one ok => exact fun c x rest hrest _ => ⟨[x], hrest, rfl, rfl, rfl⟩
  | seq p q ihp ihq | alt p q ihp ihq => exact ⟨ihp, ihq⟩
  | star p ih | lazyStar p ih => exact ih
  | group i p ih => exact ⟨ih, fun c d ⟨xs, hd⟩ => ⟨xs, hd⟩⟩
  | _ => exact True.intro

/-- A way goes forward in the text. -/
theorem Way.reaches (h : Way p c d) : c.Reaches d :=
  h.related .refl .trans (moves_reaches p)

/-- **Every way of a pattern leads further on**: where matching succeeds, it goes on from a place that is reached. -/
theorem run_reaches (h : p.run c k = some r) : ∃ d, c.Reaches d ∧ k d = some r :=
  run_related .refl .trans (moves_reaches p) h

/-- No class of characters in the pattern holds `a`. -/
def avoids (a : Char) : Pattern → Bool
  | one ok => !ok a
  | seq p q | alt p q => avoids a p && avoids a q
  | star p | lazyStar p | group _ p => avoids a p
  | _ => true

theorem moves_avoids {a : Char} (h : p.avoids a) :
    Moves (fun c d => ∃ xs, c.rest = xs ++ d.rest ∧ d.pos = c.pos + xs.length ∧ a ∉ xs) p := by
  induction p with
  | one ok =>
    intro c x rest hrest hx
    refine ⟨[x], hrest, rfl, ?_⟩
    rintro hmem
    obtain rfl := List.mem_singleton.1 hmem
    simp [avoids, hx] at h
  | seq p q ihp ihq | alt p q ihp ihq =>
    obtain ⟨hp, hq⟩ := Bool.and_eq_true_iff.1 h
    exact ⟨ihp hp, ihq hq⟩
  | star p ih | lazyStar p ih => exact ih h
  | group i p ih => exact ⟨ih h, fun c d hd => hd⟩
  | _ => exact True.intro

/-- A pattern passes no character that its classes do not hold. -/
theorem Way.not_mem_of_avoids {a : Char} (hp : p.avoids a) (h : Way p c d) :
    ∃ xs, c.rest = xs ++ d.rest ∧ d.pos = c.pos + xs.length ∧ a ∉ xs := by
  refine h.related (fun c => ⟨[], rfl, rfl, by simp⟩) ?_ (moves_avoids hp)
  rintro c d e ⟨xs, hrest, hpos, hxs⟩ ⟨ys, hrest', hpos', hys⟩
  refine ⟨xs ++ ys, by rw [hrest, hrest', List.append_assoc], ?_, by simp [hxs, hys]⟩
  rw [hpos', hpos, List.length_append, Nat.add_assoc]

/-! ## Ways are found -/

theorem repeatMore_isSome (hp : ∀ {c d : Cursor} {k : Next}, Way p c d → c.Fits → (k d).isSome → (p.run c k).isSome)
    {n : Nat} (h : Way (star p) c d) (hfit : c.Fits) (hn : c.stop - c.pos ≤ n) (hk : (k d).isSome) :
    (repeatMore p.run k n c).isSome := by
  induction n generalizing c with
  | zero =>
    -- no text is left, so no step can have been made
    rcases Relation.ReflTransGen.cases_head h with rfl | ⟨a, ⟨ha, hmoved⟩, -⟩
    · exact hk
    · have hfit' := ha.reaches.fits hfit
      unfold Cursor.Fits at hfit hfit'
      have hstop := ha.reaches.stop_eq
      omega
  | succ n ih =>
    rw [repeatMore]
    split
    · rfl
    · next hnone =>
      rcases Relation.ReflTransGen.cases_head h with rfl | ⟨a, ⟨ha, hmoved⟩, hrest⟩
      · exact hk
      · have hroom : a.stop - a.pos ≤ n := by
          have hstop := ha.reaches.stop_eq
          omega
        have hgo := ih hrest (ha.reaches.fits hfit) hroom
        have hsome := hp (k := fun d => if c.pos < d.pos then repeatMore p.run k n d else none) ha hfit
          (by rw [if_pos hmoved]; exact hgo)
        rw [hnone] at hsome
        cases hsome

theorem repeatLess_isSome (hp : ∀ {c d : Cursor} {k : Next}, Way p c d → c.Fits → (k d).isSome → (p.run c k).isSome)
    {n : Nat} (h : Way (lazyStar p) c d) (hfit : c.Fits) (hn : c.stop - c.pos ≤ n) (hk : (k d).isSome) :
    (repeatLess p.run k n c).isSome := by
  induction n generalizing c with
  | zero =>
    rcases Relation.ReflTransGen.cases_head h with rfl | ⟨a, ⟨ha, hmoved⟩, -⟩
    · exact hk
    · have hfit' := ha.reaches.fits hfit
      unfold Cursor.Fits at hfit hfit'
      have hstop := ha.reaches.stop_eq
      omega
  | succ n ih =>
    rw [repeatLess]
    split
    · rfl
    · next hnone =>
      rcases Relation.ReflTransGen.cases_head h with rfl | ⟨a, ⟨ha, hmoved⟩, hrest⟩
      · rw [hnone] at hk
        cases hk
      · have hroom : a.stop - a.pos ≤ n := by
          have hstop := ha.reaches.stop_eq
          omega
        refine hp ha hfit ?_
        rw [if_pos hmoved]
        exact ih hrest (ha.reaches.fits hfit) hroom

/-- **Matching is complete**: where a way leads to a place that is accepted, it succeeds. -/
theorem Way.run (h : Way p c d) (hfit : c.Fits) (hk : (k d).isSome) : (p.run c k).isSome := by
  induction p generalizing c d k with
  | empty =>
    obtain rfl := h
    exact hk
  | one ok =>
    obtain ⟨x, rest, hrest, hok, rfl⟩ := h
    simp only [Pattern.run, hrest, hok, if_true]
    exact hk
  | seq p q ihp ihq =>
    obtain ⟨e, he, hd⟩ := h
    exact ihp he hfit (ihq hd (he.reaches.fits hfit) hk)
  | alt p q ihp ihq =>
    rw [Pattern.run]
    split
    · rfl
    · next hnone =>
      rcases h with h | h
      · have hsome := ihp h hfit hk
        rw [hnone] at hsome
        cases hsome
      · exact ihq h hfit hk
  | star p ih => exact repeatMore_isSome ih h hfit (Nat.le_refl _) hk
  | lazyStar p ih => exact repeatLess_isSome ih h hfit (Nat.le_refl _) hk
  | group i p ih =>
    obtain ⟨d, hd, rfl⟩ := h
    exact ih hd hfit hk
  | notAhead p _ =>
    obtain ⟨hnone, rfl⟩ := h
    rw [Pattern.run, hnone]
    exact hk
  | notBehind ok =>
    obtain ⟨hbefore, rfl⟩ := h
    rw [Pattern.run, hbefore]
    exact hk
  | textStart =>
    obtain ⟨hpos, rfl⟩ := h
    rw [Pattern.run, hpos]
    exact hk
  | wordEdge | lineStart | lastLineEnd =>
    obtain ⟨hplace, rfl⟩ := h
    rw [Pattern.run, if_pos hplace]
    exact hk

/-- **Matching succeeds exactly if a way leads to a place that is accepted.** -/
theorem run_isSome_iff (hfit : c.Fits) : (p.run c k).isSome ↔ ∃ d, Way p c d ∧ (k d).isSome := by
  constructor
  · intro h
    obtain ⟨r, hr⟩ := Option.isSome_iff_exists.1 h
    obtain ⟨d, hd, hk⟩ := run_way hr
    exact ⟨d, hd, by rw [hk]; rfl⟩
  · rintro ⟨d, hd, hk⟩
    exact hd.run hfit hk

/-! ## Text that comes later -/

/-- The pattern looks at most one character ahead. -/
def isLocal : Pattern → Bool
  | seq p q | alt p q => isLocal p && isLocal q
  | star p | lazyStar p | group _ p => isLocal p
  | notAhead _ | lastLineEnd => false
  | _ => true

theorem atWordEdge_facing {s z : List Char} (hs : s ≠ []) (hrest : c.rest = s ++ z) (z' : List Char) (stop : Nat) :
    (c.facing (s ++ z') stop).atWordEdge = c.atWordEdge := by
  obtain ⟨y, s, rfl⟩ := List.exists_cons_of_ne_nil hs
  simp [Cursor.atWordEdge, hrest]

/-- **A way does not depend on what comes later**: the text behind the character that follows the way may be any. -/
theorem Way.relocate (hp : p.isLocal) (h : Way p c d) {xs s z : List Char} (hs : s ≠ []) (hc : c.rest = xs ++ (s ++ z))
    (hd : d.rest = s ++ z) (z' : List Char) (stop : Nat) :
    Way p (c.facing (xs ++ (s ++ z')) stop) (d.facing (s ++ z') stop) := by
  induction p generalizing c d xs s with
  | one ok =>
    obtain ⟨x, rest, hrest, hok, rfl⟩ := h
    obtain rfl : rest = s ++ z := hd
    obtain rfl : [x] = xs := by
      rw [hrest, ← List.singleton_append] at hc
      exact List.append_cancel_right hc
    exact ⟨x, s ++ z', rfl, hok, rfl⟩
  | seq p q ihp ihq =>
    obtain ⟨e, he, hrest⟩ := h
    obtain ⟨hp, hq⟩ := Bool.and_eq_true_iff.1 hp
    obtain ⟨us, vs, rfl, hvs⟩ := he.reaches.split hrest.reaches hc hd
    -- for the first part, what the second one reads belongs to the text that stays
    have hread : c.rest = us ++ ((vs ++ s) ++ z) := by simp [hc]
    have hfirst := ihp hp he (by simp [hs]) hread (by simp [hvs])
    refine ⟨e.facing (vs ++ (s ++ z')) stop, ?_, ihq hq hrest hs hvs hd⟩
    simpa using hfirst
  | alt p q ihp ihq =>
    obtain ⟨hp, hq⟩ := Bool.and_eq_true_iff.1 hp
    exact h.imp (fun h => ihp hp h hs hc hd) fun h => ihq hq h hs hc hd
  | star p ih | lazyStar p ih =>
    induction h using Relation.ReflTransGen.head_induction_on generalizing xs with
    | refl =>
      obtain rfl : xs = [] := List.append_left_eq_self.1 (hc.symm.trans hd)
      exact .refl
    | @head a b hstep hrest hih =>
      obtain ⟨us, vs, rfl, hvs⟩ := hstep.1.reaches.split (Way.reaches (p := star p) hrest) hc hd
      have hread : a.rest = us ++ ((vs ++ s) ++ z) := by simp [hc]
      have hfirst := ih hp hstep.1 (by simp [hs]) hread (by simp [hvs])
      refine .head (b := b.facing (vs ++ (s ++ z')) stop) ⟨?_, hstep.2⟩ (hih hvs)
      simpa using hfirst
  | group i p ih =>
    obtain ⟨d, hway, rfl⟩ := h
    exact ⟨_, ih hp hway hs hc hd, rfl⟩
  | notAhead | lastLineEnd => cases hp
  | empty =>
    obtain rfl := h
    obtain rfl : xs = [] := List.append_left_eq_self.1 (hc.symm.trans hd)
    rfl
  | wordEdge =>
    obtain ⟨hedge, rfl⟩ := h
    obtain rfl : xs = [] := List.append_left_eq_self.1 (hc.symm.trans hd)
    exact ⟨(atWordEdge_facing hs hd z' stop).trans hedge, rfl⟩
  | notBehind | textStart | lineStart =>
    obtain ⟨hplace, rfl⟩ := h
    obtain rfl : xs = [] := List.append_left_eq_self.1 (hc.symm.trans hd)
    exact ⟨hplace, rfl⟩

end Pattern

end SpringAtlas
