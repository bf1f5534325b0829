import SpringAtlas.Proofs.Pattern.Capture
import SpringAtlas.Proofs.Source.Reading

/-!
# `Proofs.Source.Quoted` — patterns that end with a literal

A pattern that reads no quote and then a literal can only capture what stands between the first two quotes ahead. If
what it reads in front looks at most one character ahead, then whether it matches is decided by the text up to the second
quote. A match that a search finds in a text is therefore found in every longer text, with the same text captured.

## Contents
* `Encloses` — the first two quotes of a text and what is between them
* `way_quotedText`, `quotedText_isSome_iff` — reading a literal
* `matchAt?_encloses`, `matchAt?_isSome_congr` — one place
* `scan?_append`, `search?_encloses`, `search?_append` — all places
-/

namespace SpringAtlas.Source

open Pattern

/-! ## The first two quotes -/

theorem append_cons_inj_of_first {a : Char} {xs xs' ys ys' : List Char} (hxs : a ∉ xs) (hxs' : a ∉ xs')
    (h : xs ++ a :: ys = xs' ++ a :: ys') : xs = xs' ∧ ys = ys' := by
  induction xs generalizing xs' with
  | nil =>
    cases xs' with
    | nil => exact ⟨rfl, (List.cons.inj h).2⟩
    | cons x xs' => exact absurd ((List.cons.inj h).1 ▸ List.mem_cons_self) hxs'
  | cons x xs ih =>
    cases xs' with
    | nil => exact absurd ((List.cons.inj h).1 ▸ List.mem_cons_self) hxs
    | cons x' xs' =>
      obtain ⟨rfl, htail⟩ := List.cons.inj h
      obtain ⟨rfl, rfl⟩ := ih (List.not_mem_of_not_mem_cons hxs) (List.not_mem_of_not_mem_cons hxs') htail
      exact ⟨rfl, rfl⟩

/-- The first two quotes of the text enclose `s`. -/
structure Encloses (text pre s post : List Char) : Prop where
  text_eq : text = pre ++ '"' :: (s ++ '"' :: post)
  front : '"' ∉ pre
  inside : '"' ∉ s

namespace Encloses

variable {text pre pre' s s' post post' : List Char}

/-- There is one first literal. -/
theorem unique (h : Encloses text pre s post) (h' : Encloses text pre' s' post') : pre = pre' ∧ s = s' ∧ post = post' := by
  obtain ⟨rfl, hrest⟩ := append_cons_inj_of_first h.front h'.front (h.text_eq.symm.trans h'.text_eq)
  exact ⟨rfl, append_cons_inj_of_first h.inside h'.inside hrest⟩

/-- A text with a literal has a quote. -/
theorem quote_mem (h : Encloses text pre s post) : '"' ∈ text := by
  simp [h.text_eq]

/-- The first literal of a text is the first one of every longer text. -/
theorem append (h : Encloses text pre s post) (z : List Char) : Encloses (text ++ z) pre s (post ++ z) where
  text_eq := by simp [h.text_eq]
  front := h.front
  inside := h.inside

/-- A text with two quotes keeps them when it grows to the left. -/
theorem prepend (h : Encloses text pre s post) (xs : List Char) : ∃ pre s post, Encloses (xs ++ text) pre s post := by
  induction xs with
  | nil => exact ⟨pre, s, post, h⟩
  | cons x xs ih =>
    obtain ⟨pre, s, post, h⟩ := ih
    by_cases hx : x = '"'
    · exact ⟨[], pre, s ++ '"' :: post, by rw [List.cons_append, hx, h.text_eq]; rfl, by simp, h.front⟩
    · exact ⟨x :: pre, s, post, by rw [List.cons_append, h.text_eq]; rfl, by simpa [Ne.symm hx] using h.front, h.inside⟩

end Encloses

/-! ## Literals -/

theorem way_quotedText {i : Nat} {e d : Cursor} (h : Way (quotedText i) e d) :
    ∃ s post, e.rest = '"' :: (s ++ '"' :: post) ∧ (∀ x ∈ s, x ≠ '"' ∧ x ≠ '\n') ∧
      d.captures = ⟨i, e.pos + 1, e.pos + 1 + s.length⟩ :: e.captures := by
  obtain ⟨b, ⟨a, hopen, ⟨b', hinner, rfl⟩⟩, hclose⟩ := h
  obtain ⟨rest, hrest, rfl⟩ := way_lit hopen
  obtain ⟨s, rest', hs, hclass, rfl⟩ := way_star_one hinner
  obtain ⟨post, hpost, rfl⟩ := way_lit hclose
  obtain rfl : rest = s ++ rest' := hs
  obtain rfl : rest' = '"' :: post := hpost
  exact ⟨s, post, hrest, fun x hx => by simpa using hclass x hx, rfl⟩

theorem quotedText_isSome_iff {i : Nat} {e : Cursor} (hfit : e.Fits) :
    ((quotedText i).run e some).isSome ↔
      ∃ s post, e.rest = '"' :: (s ++ '"' :: post) ∧ ∀ x ∈ s, x ≠ '"' ∧ x ≠ '\n' := by
  constructor
  · intro h
    obtain ⟨r, hr⟩ := Option.isSome_iff_exists.1 h
    obtain ⟨d, hd, -⟩ := run_way hr
    obtain ⟨s, post, hrest, hs, -⟩ := way_quotedText hd
    exact ⟨s, post, hrest, hs⟩
  · rintro ⟨s, post, hrest, hs⟩
    obtain ⟨d, hd, -⟩ := takes_quoted i hs hrest
    rw [(hd hfit).2 some d rfl]
    rfl

/-! ## One place -/

variable {p : Pattern} {i : Nat} {before : Option Char} {pos stop : Nat} {text : List Char}

/-- **A match captures what the first two quotes enclose.** -/
theorem matchAt?_encloses (hquote : p.avoids '"') {m : Match}
    (h : (p ++ quotedText i).matchAt? before pos stop text = some m) :
    ∃ pre s post, Encloses text pre s post ∧
      m.span? i = some (pos + pre.length + 1, pos + pre.length + 1 + s.length) := by
  obtain ⟨d, hrun, rfl⟩ := Option.map_eq_some_iff.1 h
  obtain ⟨d, ⟨e, hfront, hquoted⟩, hk⟩ := run_way hrun
  cases hk
  obtain ⟨pre, hpre, hpos, hfree⟩ := hfront.not_mem_of_avoids hquote
  obtain ⟨s, post, hrest, hs, hcaptures⟩ := way_quotedText hquoted
  refine ⟨pre, s, post, ⟨?_, hfree, fun hmem => (hs _ hmem).1 rfl⟩, ?_⟩
  · rw [← hrest]
    exact hpre
  · simp [Match.span?, hcaptures, hpos]

/-- **Whether it matches is decided up to the second quote.** -/
theorem matchAt?_isSome_congr (hlocal : p.isLocal) (hquote : p.avoids '"') {text' pre s post post' : List Char}
    (ht : Encloses text pre s post) (ht' : Encloses text' pre s post')
    (h : ((p ++ quotedText i).matchAt? before pos (pos + text.length) text).isSome) :
    ((p ++ quotedText i).matchAt? before pos (pos + text'.length) text').isSome := by
  rw [matchAt?, Option.isSome_map] at h ⊢
  have hfit : Cursor.Fits ⟨before, pos, pos + text.length, text, []⟩ := rfl
  obtain ⟨e, hfront, hrun⟩ := (run_isSome_iff (k := fun e => (quotedText i).run e some) hfit).1 h
  have hefit := hfront.reaches.fits hfit
  obtain ⟨s', rest, hrest, hs⟩ := (quotedText_isSome_iff hefit).1 hrun
  obtain ⟨xs, hxs, -, hfree⟩ := hfront.not_mem_of_avoids hquote
  -- what is read in front ends at the first quote
  have hfirst : Encloses text xs s' rest := ⟨by rw [← hrest]; exact hxs, hfree, fun hmem => (hs _ hmem).1 rfl⟩
  obtain ⟨rfl, rfl, rfl⟩ := hfirst.unique ht
  have htext : text = xs ++ ('"' :: (s' ++ ['"']) ++ rest) := by simp [ht.text_eq]
  have hleft : e.rest = '"' :: (s' ++ ['"']) ++ rest := by simp [hrest]
  have hway := hfront.relocate hlocal (by simp) htext hleft post' (pos + text'.length)
  have hfit' : Cursor.Fits ⟨before, pos, pos + text'.length, text', []⟩ := rfl
  have hstart : Cursor.facing ⟨before, pos, pos + text.length, text, []⟩ (xs ++ ('"' :: (s' ++ ['"']) ++ post'))
      (pos + text'.length) = ⟨before, pos, pos + text'.length, text', []⟩ := by
    simp [Cursor.facing, ht'.text_eq]
  rw [hstart] at hway
  have hquoted : ((quotedText i).run (e.facing ('"' :: (s' ++ ['"']) ++ post') (pos + text'.length)) some).isSome :=
    (quotedText_isSome_iff (hway.reaches.fits hfit')).2 ⟨s', post', by simp, hs⟩
  exact hway.run (k := fun e => (quotedText i).run e some) hfit' hquoted

/-! ## All places -/

/-- **A match found in a text is found in every longer text**, with the same text captured. -/
theorem scan?_append (hlocal : p.isLocal) (hquote : p.avoids '"') {m : Match}
    (h : (p ++ quotedText i).scan? (pos + text.length) before pos text = some m) (z : List Char) :
    ∃ m', (p ++ quotedText i).scan? (pos + (text ++ z).length) before pos (text ++ z) = some m' ∧
      m'.span? i = m.span? i := by
  induction text generalizing before pos with
  | nil =>
    obtain ⟨pre, s, post, henc, -⟩ := matchAt?_encloses hquote h
    have hnil := henc.text_eq
    simp at hnil
  | cons x text ih =>
    rw [scan?] at h
    rw [List.cons_append, scan?]
    split at h
    · next hmatch =>
      cases h
      obtain ⟨pre, s, post, henc, hspan⟩ := matchAt?_encloses hquote hmatch
      have hsome := matchAt?_isSome_congr hlocal hquote henc (henc.append z) (by rw [hmatch]; rfl)
      obtain ⟨m', hm'⟩ := Option.isSome_iff_exists.1 hsome
      obtain ⟨pre', s', post', henc', hspan'⟩ := matchAt?_encloses hquote hm'
      obtain ⟨rfl, rfl, -⟩ := henc'.unique (henc.append z)
      rw [List.cons_append] at hm'
      exact ⟨m', by rw [hm'], hspan'.trans hspan.symm⟩
    · next hnone =>
      have hlen (ys : List Char) : pos + (x :: ys).length = pos + 1 + ys.length := by
        rw [List.length_cons]
        omega
      -- the quotes that a later match needs decide this place too
      obtain ⟨pre, s, post, henc⟩ : ∃ pre s post, Encloses (x :: text) pre s post := by
        obtain ⟨ys, rest, rfl, hlater⟩ := exists_matchAt?_of_scan? h
        obtain ⟨pre, s, post, henc, -⟩ := matchAt?_encloses hquote hlater
        exact henc.prepend (x :: ys)
      have hnone' : (p ++ quotedText i).matchAt? before pos (pos + (x :: (text ++ z)).length) (x :: (text ++ z)) =
          none := by
        refine Option.not_isSome_iff_eq_none.1 fun hsome => ?_
        have hback := matchAt?_isSome_congr hlocal hquote (henc.append z) henc hsome
        rw [hnone] at hback
        cases hback
      rw [hlen] at h
      obtain ⟨m', hm', hspan⟩ := ih h
      refine ⟨m', ?_, hspan⟩
      rw [hnone', hlen]
      exact hm'

/-- What a search captures lies between two quotes of the text. -/
theorem search?_encloses (hquote : p.avoids '"') {m : Match} (h : (p ++ quotedText i).search? text = some m) :
    (∃ pre s post, Encloses text pre s post) ∧ ∃ a b, m.span? i = some (a, b) ∧ b ≤ text.length := by
  obtain ⟨xs, rest, rfl, hmatch⟩ := exists_matchAt?_of_scan? h
  obtain ⟨pre, s, post, henc, hspan⟩ := matchAt?_encloses hquote hmatch
  refine ⟨henc.prepend xs, _, _, hspan, ?_⟩
  rw [henc.text_eq]
  simp only [List.length_append, List.length_cons]
  omega

/-- **A search finds in every longer text what it has found.** -/
theorem search?_append (hlocal : p.isLocal) (hquote : p.avoids '"') {m : Match}
    (h : (p ++ quotedText i).search? text = some m) (z : List Char) :
    ∃ m', (p ++ quotedText i).search? (text ++ z) = some m' ∧ m'.group (text ++ z) i = m.group text i := by
  have hscan : (p ++ quotedText i).scan? (0 + text.length) none 0 text = some m := by
    rw [Nat.zero_add]
    exact h
  obtain ⟨m', hm', hspan⟩ := scan?_append hlocal hquote hscan z
  rw [Nat.zero_add] at hm'
  obtain ⟨-, a, b, hab, hb⟩ := search?_encloses hquote h
  refine ⟨m', hm', ?_⟩
  rw [Match.group, Match.group, Match.group?, Match.group?, hspan, hab, Option.map_some, Option.map_some, Text.slice,
    Text.slice, List.take_append_of_le_length hb]

end SpringAtlas.Source
