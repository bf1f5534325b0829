import Mathlib.Data.List.Forall2
import SpringAtlas.Source.Mask

/-!
# `Proofs.Source.Mask` — the mask of a text is stable

The mask has the offsets of its text: it is as long, and each of its characters is that of the text or a space.
It is also *complete*: cut into pieces again it shows no comment and no text inside a literal, so that masking it
once more changes nothing. The same holds of the text with its comments blanked, which has the mask of the text; both
are *views* of the text and are treated as one.

The second half rests on one fact about quotes that open nothing. Blanking the pieces behind such a quote must not
give it the end it lacked: `View.splitLiteral?_shown` says that it does not. A comment keeps its line breaks, and a
literal behind the quote was read in step with the search for the quote's own end (`splitLiteral?_resume`), so every
backslash keeps its role.

## Contents
* `Leads` — what the piece at the front of a text can be
* `escaped_induction` — induction along the inside of a literal
* `View`, `View.text_kept` — a view against its text, character by character
* `View.splitLiteral?_shown` — a quote that opens no literal opens none in a view
* `View.pieces_text`, `View.mask_text` — the pieces of a view, and its mask
* `pieces_mask`, `mask_mask`, `mask_blankComments` — the two views
-/

namespace SpringAtlas.Source

/-! ## The piece at the front of a text -/

/-- The piece at the front of `c :: cs`, and the text behind it: one case for each kind of piece, with what has
    been tried in vain before a character counts as plain. -/
inductive Leads : Char → List Char → Piece → List Char → Prop
  | line (cs : List Char) :
      Leads '/' ('/' :: cs) (.comment ('/' :: '/' :: cs.takeWhile (· != '\n'))) (cs.dropWhile (· != '\n'))
  | block (cs : List Char) :
      Leads '/' ('*' :: cs) (.comment ('/' :: '*' :: (splitBlockComment cs).1)) (splitBlockComment cs).2
  | literal {q : Char} {cs inner rest : List Char} (hq : isQuote q)
      (h : splitLiteral? q cs = some (inner, rest)) : Leads q cs (.literal q inner) rest
  | plain {c : Char} {cs : List Char} (hslash : c = '/' → cs.head? ≠ some '/' ∧ cs.head? ≠ some '*')
      (hquote : isQuote c → splitLiteral? c cs = none) : Leads c cs (.plain c) cs

/-- The first piece of a text is one of the pieces that it can start with. -/
theorem leads_leadingPiece (c : Char) (cs : List Char) :
    Leads c cs (leadingPiece c cs).1 (leadingPiece c cs).2 := by
  unfold leadingPiece
  split
  · next h =>
    simp only [Bool.and_eq_true, beq_iff_eq] at h
    obtain ⟨rfl, hcs⟩ := h
    obtain ⟨tl, rfl⟩ : ∃ tl, cs = '/' :: tl := by
      cases cs <;> simp_all
    exact .line tl
  · next hline =>
    split
    · next h =>
      simp only [Bool.and_eq_true, beq_iff_eq] at h
      obtain ⟨rfl, hcs⟩ := h
      obtain ⟨tl, rfl⟩ : ∃ tl, cs = '*' :: tl := by
        cases cs <;> simp_all
      exact .block tl
    · next hblock =>
      have hslash : c = '/' → cs.head? ≠ some '/' ∧ cs.head? ≠ some '*' := by
        rintro rfl
        simp_all
      split
      · next hq =>
        split
        · next h => exact .literal hq h
        · next h => exact .plain hslash fun _ => h
      · next hq => exact .plain hslash fun hq' => absurd hq' hq

/-- A quote with a closing one behind it starts a literal. -/
theorem leadingPiece_literal {q : Char} {cs inner rest : List Char} (hq : isQuote q)
    (h : splitLiteral? q cs = some (inner, rest)) : leadingPiece q cs = (.literal q inner, rest) := by
  have hslash : q ≠ '/' := by
    rintro rfl
    simp [isQuote] at hq
  simp [leadingPiece, hslash, hq, h]

theorem leadingPiece_unopened {c : Char} {cs : List Char}
    (hslash : c = '/' → cs.head? ≠ some '/' ∧ cs.head? ≠ some '*')
    (hquote : isQuote c → splitLiteral? c cs = none) : leadingPiece c cs = (.plain c, cs) := by
  unfold leadingPiece
  split
  · simp_all
  split
  · simp_all
  split
  · next hq => simp [hquote hq]
  · rfl

/-- A character that is neither a slash nor a quote stands for itself. -/
theorem leadingPiece_plain {c : Char} (hslash : c ≠ '/') (hquote : isQuote c = false) (cs : List Char) :
    leadingPiece c cs = (.plain c, cs) :=
  leadingPiece_unopened (fun h => absurd h hslash) fun h => by simp [hquote] at h

theorem isQuote_ne {q c : Char} (hq : isQuote q) (hc : isQuote c = false) : q ≠ c := by
  rintro rfl
  simp [hq] at hc

/-! ## Reading the inside of a literal

The search for the end of a literal reads a backslash together with the character behind it, and every other
character alone. The four equations below are all that is used of it. -/

@[simp] theorem splitLiteral?_nil (q : Char) : splitLiteral? q [] = none := by
  rw [splitLiteral?]

@[simp] theorem splitLiteral?_lone_escape (q : Char) : splitLiteral? q ['\\'] = none := by
  rw [splitLiteral?]

/-- An escaped character never closes a literal. -/
theorem splitLiteral?_escape (q c : Char) (cs : List Char) :
    splitLiteral? q ('\\' :: c :: cs) = (splitLiteral? q cs).map fun r => ('\\' :: c :: r.1, r.2) := by
  rw [splitLiteral?]

/-- Any other character goes into the literal, unless it is the quote that closes it or a line break. -/
theorem splitLiteral?_cons (q : Char) {c : Char} (hc : c ≠ '\\') (cs : List Char) :
    splitLiteral? q (c :: cs) =
      if c == q then some ([], cs) else if c == '\n' then none
      else (splitLiteral? q cs).map fun r => (c :: r.1, r.2) := by
  rw [splitLiteral?] <;> simp [hc]

theorem splitLiteral?_escape_eq_none {q c : Char} {cs : List Char} :
    splitLiteral? q ('\\' :: c :: cs) = none ↔ splitLiteral? q cs = none := by
  rw [splitLiteral?_escape, Option.map_eq_none_iff]

theorem splitLiteral?_cons_eq_none {q c : Char} {cs : List Char} (hc : c ≠ '\\') :
    splitLiteral? q (c :: cs) = none ↔ c ≠ q ∧ (c = '\n' ∨ splitLiteral? q cs = none) := by
  rw [splitLiteral?_cons q hc]
  by_cases hq : c = q
  · simp [hq]
  by_cases hn : c = '\n'
  · simp [hn]
  · simp [hn, hq]

/-- The inside of a literal that starts with an escape. -/
theorem splitLiteral?_escape_eq_some {q c : Char} {cs inner rest : List Char} :
    splitLiteral? q ('\\' :: c :: cs) = some (inner, rest) ↔
      ∃ i, splitLiteral? q cs = some (i, rest) ∧ inner = '\\' :: c :: i := by
  rw [splitLiteral?_escape, Option.map_eq_some_iff]
  constructor
  · rintro ⟨⟨i, r⟩, hr, he⟩
    obtain ⟨rfl, rfl⟩ := Prod.mk.inj he
    exact ⟨i, hr, rfl⟩
  · rintro ⟨i, hr, rfl⟩
    exact ⟨(i, rest), hr, rfl⟩

/-- The inside of a literal that starts with another character, or ends at once. -/
theorem splitLiteral?_cons_eq_some {q c : Char} {cs inner rest : List Char} (hc : c ≠ '\\') :
    splitLiteral? q (c :: cs) = some (inner, rest) ↔
      (c = q ∧ inner = [] ∧ rest = cs) ∨
      (c ≠ q ∧ c ≠ '\n' ∧ ∃ i, splitLiteral? q cs = some (i, rest) ∧ inner = c :: i) := by
  rw [splitLiteral?_cons q hc]
  by_cases hq : c = q
  · simp [hq, eq_comm]
  by_cases hn : c = '\n'
  · subst hn
    simp [hq]
  simp only [beq_iff_eq, hq, hn, if_false, Option.map_eq_some_iff, false_and, false_or, ne_eq,
    not_false_eq_true, true_and]
  constructor
  · rintro ⟨⟨i, r⟩, hr, he⟩
    obtain ⟨rfl, rfl⟩ := Prod.mk.inj he
    exact ⟨i, hr, rfl⟩
  · rintro ⟨i, hr, rfl⟩
    exact ⟨(i, rest), hr, rfl⟩

/-- Induction along the inside of a literal: a backslash goes with the character it escapes. -/
@[elab_as_elim]
theorem escaped_induction {motive : List Char → Prop} (nil : motive []) (lone : motive ['\\'])
    (escape : ∀ c cs, motive cs → motive ('\\' :: c :: cs))
    (other : ∀ c cs, c ≠ '\\' → motive cs → motive (c :: cs)) : ∀ cs, motive cs
  | [] => nil
  | c :: cs => by
    by_cases hc : c = '\\'
    · subst hc
      cases cs with
      | nil => exact lone
      | cons d ds => exact escape d ds (escaped_induction nil lone escape other ds)
    · exact other c cs hc (escaped_induction nil lone escape other cs)

theorem splitLiteral?_text {q : Char} {cs inner rest : List Char}
    (h : splitLiteral? q cs = some (inner, rest)) : inner ++ q :: rest = cs := by
  induction cs using escaped_induction generalizing inner with
  | nil => simp at h
  | lone => simp at h
  | escape c cs ih =>
    obtain ⟨i, hi, rfl⟩ := splitLiteral?_escape_eq_some.1 h
    rw [List.cons_append, List.cons_append, ih hi]
  | other c cs hc ih =>
    rcases (splitLiteral?_cons_eq_some hc).1 h with ⟨rfl, rfl, rfl⟩ | ⟨-, -, i, hi, rfl⟩
    · rfl
    · rw [List.cons_append, ih hi]

/-! ## Block comments -/

theorem splitBlockComment_text (cs : List Char) :
    (splitBlockComment cs).1 ++ (splitBlockComment cs).2 = cs := by
  fun_induction splitBlockComment cs with
  | case1 => rfl
  | case2 cs => rfl
  | case3 c cs _ ih => rw [List.cons_append, ih]

/-- A block comment runs to the end of the text or ends with a slash; it never ends with a backslash that would
    escape the character behind it. -/
theorem splitBlockComment_closed (cs : List Char) :
    (splitBlockComment cs).2 = [] ∨ (splitBlockComment cs).1.getLast? = some '/' := by
  fun_induction splitBlockComment cs with
  | case1 => exact Or.inl rfl
  | case2 cs => exact Or.inr rfl
  | case3 c cs _ ih =>
    refine ih.imp id fun h => ?_
    simp [List.getLast?_cons, h]

/-- A piece and what is left make up the text. -/
theorem Leads.text {c : Char} {cs rest : List Char} {p : Piece} (h : Leads c cs p rest) :
    p.text ++ rest = c :: cs := by
  cases h with
  | line cs => simp [Piece.text]
  | block cs => simp [Piece.text, splitBlockComment_text]
  | literal hq h => simp [Piece.text, splitLiteral?_text h]
  | plain => rfl

/-! ## The mask piece by piece -/

theorem pieces_cons (c : Char) (cs : List Char) :
    pieces (c :: cs) = (leadingPiece c cs).1 :: pieces (leadingPiece c cs).2 := by
  rw [pieces]

theorem pieces_cons_plain {c : Char} (hslash : c ≠ '/') (hquote : isQuote c = false) (cs : List Char) :
    pieces (c :: cs) = .plain c :: pieces cs := by
  rw [pieces_cons, leadingPiece_plain hslash hquote]

/-! ## Views

The mask and the text without comments differ only in what they show of a literal. -/

/-- What is shown of a text: everything but comments, with the inside of literals blanked or as it stands. -/
inductive View where
  | masked
  | uncommented

namespace View

/-- The inside of a literal as it is shown. -/
def inside : View → List Char → List Char
  | masked, inner => List.replicate inner.length ' '
  | uncommented, inner => inner

/-- A piece as it is shown. -/
def piece (v : View) : Piece → List Char
  | .comment body => Piece.blank body
  | .literal q inner => q :: (v.inside inner ++ [q])
  | .plain c => [c]

/-- A text as it is shown. -/
def text (v : View) (cs : List Char) : List Char :=
  (pieces cs).flatMap v.piece

theorem piece_masked : View.masked.piece = Piece.masked := by
  funext p
  cases p <;> rfl

theorem piece_uncommented : View.uncommented.piece = Piece.uncommented := by
  funext p
  cases p <;> rfl

theorem text_masked (cs : List Char) : View.masked.text cs = mask cs := by
  rw [text, piece_masked, mask]

theorem text_uncommented (cs : List Char) : View.uncommented.text cs = blankComments cs := by
  rw [text, piece_uncommented, blankComments]

@[simp] theorem text_nil (v : View) : v.text [] = [] := by
  simp [text, pieces]

theorem text_cons (v : View) (c : Char) (cs : List Char) :
    v.text (c :: cs) = v.piece (leadingPiece c cs).1 ++ v.text (leadingPiece c cs).2 := by
  rw [text, pieces_cons, List.flatMap_cons, text]

theorem text_cons_plain (v : View) {c : Char} (hslash : c ≠ '/') (hquote : isQuote c = false) (cs : List Char) :
    v.text (c :: cs) = c :: v.text cs := by
  rw [text_cons, leadingPiece_plain hslash hquote]
  rfl

end View

/-- The empty text is its own mask. -/
@[simp] theorem mask_nil : mask [] = [] := by
  simp [mask, pieces]

/-- The mask of a text is the mask of its first piece and the mask of what is left. -/
theorem mask_cons (c : Char) (cs : List Char) :
    mask (c :: cs) = (leadingPiece c cs).1.masked ++ mask (leadingPiece c cs).2 := by
  rw [mask, pieces_cons, List.flatMap_cons, mask]

/-- A character that starts neither a comment nor a literal stays. -/
theorem mask_cons_plain {c : Char} (hslash : c ≠ '/') (hquote : isQuote c = false) (cs : List Char) :
    mask (c :: cs) = c :: mask cs := by
  rw [mask_cons, leadingPiece_plain hslash hquote]
  rfl

/-! ## Offsets -/

/-- A character `m` of a mask where the text has `c`. -/
def Kept (m c : Char) : Prop := m = c ∨ m = ' '

theorem kept_refl (cs : List Char) : List.Forall₂ Kept cs cs :=
  List.forall₂_same.2 fun _ _ => Or.inl rfl

theorem blank_kept (cs : List Char) : List.Forall₂ Kept (Piece.blank cs) cs := by
  induction cs with
  | nil => exact .nil
  | cons c cs ih =>
    refine .cons ?_ ih
    by_cases hc : c = '\n'
    · exact Or.inl (by simp [hc])
    · exact Or.inr (by simp [hc])

theorem spaces_kept (cs : List Char) : List.Forall₂ Kept (List.replicate cs.length ' ') cs := by
  induction cs with
  | nil => exact .nil
  | cons c cs ih => exact .cons (Or.inr rfl) ih

namespace View

theorem inside_kept (v : View) (inner : List Char) : List.Forall₂ Kept (v.inside inner) inner := by
  cases v with
  | masked => exact spaces_kept inner
  | uncommented => exact kept_refl inner

theorem piece_kept (v : View) (p : Piece) : List.Forall₂ Kept (v.piece p) p.text := by
  cases p with
  | comment body => exact blank_kept body
  | literal q inner =>
    exact .cons (Or.inl rfl) (List.rel_append (v.inside_kept inner) (.cons (Or.inl rfl) .nil))
  | plain c => exact .cons (Or.inl rfl) .nil

/-- **A view stands beside its text**, character by character. -/
theorem text_kept (v : View) (t : List Char) : List.Forall₂ Kept (v.text t) t := by
  fun_induction pieces t with
  | case1 =>
    rw [text_nil]
    exact .nil
  | case2 c cs ih =>
    have htext := (leads_leadingPiece c cs).text
    rw [text_cons, ← htext]
    exact List.rel_append (v.piece_kept _) ih

end View

/-- In the mask of a piece every character is kept or blanked. -/
theorem masked_kept (p : Piece) : List.Forall₂ Kept p.masked p.text := by
  rw [← View.piece_masked]
  exact View.masked.piece_kept p

/-- In the mask of a text every character is kept or blanked, at its own offset. -/
theorem mask_kept (t : List Char) : List.Forall₂ Kept (mask t) t := by
  rw [← View.text_masked]
  exact View.masked.text_kept t

/-- At every offset there is the character of the text, or a blank. -/
theorem kept_getElem? {ms cs : List Char} (h : List.Forall₂ Kept ms cs) (i : Nat) :
    ms[i]? = cs[i]? ∨ ms[i]? = some ' ' := by
  induction h generalizing i with
  | nil => exact Or.inl rfl
  | @cons m c ms cs hkept _ ih =>
    cases i with
    | zero =>
      rcases hkept with rfl | rfl
      · exact Or.inl rfl
      · exact Or.inr rfl
    | succ i => exact ih i

theorem View.text_head (v : View) (c : Char) (cs : List Char) : ∃ m ms, v.text (c :: cs) = m :: ms ∧ Kept m c := by
  obtain ⟨m, ms, hm, -, he⟩ := List.forall₂_cons_right_iff.1 (v.text_kept (c :: cs))
  exact ⟨m, ms, he, hm⟩

theorem View.text_head?_ne (v : View) {c : Char} {cs : List Char} (hc : c ≠ ' ') (h : cs.head? ≠ some c) :
    (v.text cs).head? ≠ some c := by
  cases cs with
  | nil => simp
  | cons d ds =>
    obtain ⟨m, ms, hm, hkept⟩ := v.text_head d ds
    rw [hm]
    rcases hkept with rfl | rfl
    · exact h
    · simpa using hc.symm

/-! ## Quotes that open no literal

`splitLiteral? q cs = none` says that a quote `q` in front of `cs` has no end on its line. The lemmas below follow
this search over the pieces of the mask of `cs`. -/

/-- The search passes over blanks: it stops at a line break among them or goes on behind them. -/
theorem splitLiteral?_blank_append {q : Char} (hq : isQuote q) {body v : List Char}
    (h : '\n' ∈ body ∨ splitLiteral? q v = none) : splitLiteral? q (Piece.blank body ++ v) = none := by
  induction body with
  | nil => simpa [Piece.blank] using h
  | cons c cs ih =>
    by_cases hc : c = '\n'
    · have hb : Piece.blank (c :: cs) ++ v = '\n' :: (Piece.blank cs ++ v) := by simp [Piece.blank, hc]
      rw [hb, splitLiteral?_cons_eq_none (by decide)]
      exact ⟨(isQuote_ne hq (by decide)).symm, Or.inl rfl⟩
    · have hb : Piece.blank (c :: cs) ++ v = ' ' :: (Piece.blank cs ++ v) := by simp [Piece.blank, hc]
      rw [hb, splitLiteral?_cons_eq_none (by decide)]
      refine ⟨(isQuote_ne hq (by decide)).symm, Or.inr (ih (h.imp_left fun hn => ?_))⟩
      exact (List.mem_cons.1 hn).resolve_left fun h => hc h.symm

theorem splitLiteral?_spaces_append {q : Char} (hq : isQuote q) (n : Nat) (v : List Char) :
    splitLiteral? q (List.replicate n ' ' ++ v) =
      (splitLiteral? q v).map fun r => (List.replicate n ' ' ++ r.1, r.2) := by
  have hne : ' ' ≠ q := (isQuote_ne hq (by decide)).symm
  induction n with
  | zero => simp
  | succ n ih =>
    rw [List.replicate_succ, List.cons_append, splitLiteral?_cons q (by decide), ih]
    simp [hne, Function.comp_def]

/-- A search without result has none behind any part of a line that it has read to the end; only a backslash at
    the end of that part could take the next character with it. -/
theorem splitLiteral?_drop {q : Char} {u v : List Char} (hline : '\n' ∉ u) (hend : u.getLast? ≠ some '\\')
    (h : splitLiteral? q (u ++ v) = none) : splitLiteral? q v = none := by
  induction u using escaped_induction with
  | nil => exact h
  | lone => simp at hend
  | escape c u ih =>
    refine ih (by simp_all) ?_ (splitLiteral?_escape_eq_none.1 h)
    cases u <;> simp_all [List.getLast?_cons]
  | other c u hc ih =>
    have hread := ((splitLiteral?_cons_eq_none hc).1 h).2
    refine ih (by simp_all) ?_ (hread.resolve_left fun hn => hline (by simp [hn]))
    cases u <;> simp_all [List.getLast?_cons]

/-- **Two searches stay in step.** Both read the same escapes, so behind a literal that ends with `q'` a search for
    `q` that found nothing goes on from an unescaped place. -/
theorem splitLiteral?_resume {q q' : Char} (hq' : isQuote q') (hne : q' ≠ q) {cs inner rest : List Char}
    (hs : splitLiteral? q' cs = some (inner, rest)) (h : splitLiteral? q cs = none) :
    splitLiteral? q rest = none ∧
      ∀ w, splitLiteral? q w = none → splitLiteral? q (inner ++ q' :: w) = none := by
  have hend {w : List Char} (hw : splitLiteral? q w = none) : splitLiteral? q (q' :: w) = none :=
    (splitLiteral?_cons_eq_none (isQuote_ne hq' (by decide))).2 ⟨hne, Or.inr hw⟩
  induction cs using escaped_induction generalizing inner with
  | nil => simp at hs
  | lone => simp at hs
  | escape c cs ih =>
    obtain ⟨i, hi, rfl⟩ := splitLiteral?_escape_eq_some.1 hs
    obtain ⟨hrest, hinner⟩ := ih hi (splitLiteral?_escape_eq_none.1 h)
    exact ⟨hrest, fun w hw => splitLiteral?_escape_eq_none.2 (hinner w hw)⟩
  | other c cs hc ih =>
    obtain ⟨hcq, hread⟩ := (splitLiteral?_cons_eq_none hc).1 h
    rcases (splitLiteral?_cons_eq_some hc).1 hs with ⟨rfl, rfl, rfl⟩ | ⟨-, hn, i, hi, rfl⟩
    · exact ⟨hread.resolve_left (isQuote_ne hq' (by decide)), fun w hw => hend hw⟩
    · obtain ⟨hrest, hinner⟩ := ih hi (hread.resolve_left hn)
      exact ⟨hrest, fun w hw => (splitLiteral?_cons_eq_none hc).2 ⟨hcq, Or.inr (hinner w hw)⟩⟩

/-- A literal ends where it did, whatever follows it. -/
theorem splitLiteral?_inner {q : Char} {cs inner rest : List Char} (hs : splitLiteral? q cs = some (inner, rest))
    (w : List Char) : splitLiteral? q (inner ++ q :: w) = some (inner, w) := by
  induction cs using escaped_induction generalizing inner with
  | nil => simp at hs
  | lone => simp at hs
  | escape c cs ih =>
    obtain ⟨i, hi, rfl⟩ := splitLiteral?_escape_eq_some.1 hs
    exact splitLiteral?_escape_eq_some.2 ⟨i, ih hi, rfl⟩
  | other c cs hc ih =>
    rcases (splitLiteral?_cons_eq_some hc).1 hs with ⟨rfl, rfl, rfl⟩ | ⟨hcq, hn, i, hi, rfl⟩
    · exact (splitLiteral?_cons_eq_some hc).2 (Or.inl ⟨rfl, rfl, rfl⟩)
    · exact (splitLiteral?_cons_eq_some hc).2 (Or.inr ⟨hcq, hn, i, ih hi, rfl⟩)

namespace View

/-- The search goes on behind a literal that is shown. -/
theorem splitLiteral?_inside_eq_none (v : View) {q q' : Char} (hq : isQuote q) (hq' : isQuote q') (hne : q' ≠ q)
    {cs inner rest w : List Char} (hs : splitLiteral? q' cs = some (inner, rest)) (h : splitLiteral? q cs = none)
    (hw : splitLiteral? q w = none) : splitLiteral? q (v.inside inner ++ q' :: w) = none := by
  cases v with
  | masked =>
    rw [inside, splitLiteral?_spaces_append hq, Option.map_eq_none_iff]
    exact (splitLiteral?_cons_eq_none (isQuote_ne hq' (by decide))).2 ⟨hne, Or.inr hw⟩
  | uncommented => exact (splitLiteral?_resume hq' hne hs h).2 w hw

theorem splitLiteral?_inside (v : View) {q : Char} (hq : isQuote q) {cs inner rest : List Char}
    (hs : splitLiteral? q cs = some (inner, rest)) (w : List Char) :
    splitLiteral? q (v.inside inner ++ q :: w) = some (v.inside inner, w) := by
  cases v with
  | masked =>
    rw [inside, splitLiteral?_spaces_append hq, splitLiteral?_cons q (isQuote_ne hq (by decide))]
    simp
  | uncommented => exact splitLiteral?_inner hs w

/-- A search that finds nothing in a text that starts inside a comment finds nothing in its view. -/
theorem splitLiteral?_comment (v : View) {q c : Char} {cs body rest : List Char} (hq : isQuote q)
    (hl : Leads c cs (.comment (c :: body)) rest)
    (ih : splitLiteral? q rest = none → splitLiteral? q (v.text rest) = none)
    (h : splitLiteral? q cs = none) : splitLiteral? q (Piece.blank body ++ v.text rest) = none := by
  apply splitLiteral?_blank_append hq
  by_cases hn : '\n' ∈ body
  · exact Or.inl hn
  right
  cases hl with
  | line cs =>
    -- the comment ends where its line does, so whatever stands behind it is out of reach
    cases hd : cs.dropWhile (· != '\n') with
    | nil => simp
    | cons d ds =>
      have hd' : d = '\n' := by
        have := List.head?_dropWhile_not (· != '\n') cs
        simpa [hd] using this
      subst hd'
      rw [v.text_cons_plain (by decide) (by decide), splitLiteral?_cons_eq_none (by decide)]
      exact ⟨(isQuote_ne hq (by decide)).symm, Or.inl rfl⟩
  | block cs =>
    rcases splitBlockComment_closed cs with hr | hr
    · simp [hr]
    · apply ih
      apply splitLiteral?_drop hn _ (by simpa [splitBlockComment_text] using h)
      simp [List.getLast?_cons, hr]

/-- The step of `splitLiteral?_shown`: the first character has been read, alone or with a backslash in front of it,
    and the rest of its piece stands as it is shown. -/
theorem splitLiteral?_tail (v : View) {q c m : Char} {cs ms : List Char} (hq : isQuote q)
    (ih : ∀ r : List Char, r.length ≤ cs.length → splitLiteral? q r = none → splitLiteral? q (v.text r) = none)
    (hm : v.text (c :: cs) = m :: ms) (h : splitLiteral? q cs = none) : splitLiteral? q ms = none := by
  rw [text_cons] at hm
  have hl := leads_leadingPiece c cs
  have hih := ih _ (leadingPiece_length c cs)
  generalize (leadingPiece c cs).1 = p at hl hm
  generalize (leadingPiece c cs).2 = rest at hl hm hih
  cases p with
  | comment body =>
    obtain ⟨body, rfl⟩ : ∃ tl, body = c :: tl := by
      cases hl <;> exact ⟨_, rfl⟩
    obtain ⟨-, rfl⟩ := List.cons.inj hm
    exact v.splitLiteral?_comment hq hl hih h
  | literal q' inner =>
    cases hl with
    | literal hq' hs =>
      rw [piece, List.cons_append, List.append_assoc] at hm
      obtain ⟨-, rfl⟩ := List.cons.inj hm
      have hne : c ≠ q := by
        rintro rfl
        simp [hs] at h
      have hrest := hih (splitLiteral?_resume hq' hne hs h).1
      exact v.splitLiteral?_inside_eq_none hq hq' hne hs h hrest
  | plain d =>
    cases hl with
    | plain _ _ =>
      obtain ⟨-, rfl⟩ := List.cons.inj hm
      exact hih h

/-- **A quote that opens no literal in a text opens none in a view of it.** By induction on the length of the text,
    since the view goes on behind whole pieces. -/
theorem splitLiteral?_shown (v : View) {q : Char} (hq : isQuote q) {cs : List Char} (h : splitLiteral? q cs = none) :
    splitLiteral? q (v.text cs) = none := by
  induction hlen : cs.length using Nat.strongRecOn generalizing cs with
  | _ n ih =>
    have hshort : ∀ r : List Char, r.length < n → splitLiteral? q r = none → splitLiteral? q (v.text r) = none :=
      fun r hr h => ih r.length hr h rfl
    cases cs with
    | nil => simp
    | cons c cs =>
      obtain ⟨m, ms, hm, hkept⟩ := v.text_head c cs
      by_cases hc : c = '\\'
      · subst hc
        rw [v.text_cons_plain (by decide) (by decide)]
        cases cs with
        | nil => simp
        | cons d ds =>
          -- the escaped character may start a piece of its own, whose rest the search meets unescaped
          obtain ⟨m, ms, hm, -⟩ := v.text_head d ds
          rw [hm, splitLiteral?_escape_eq_none]
          refine v.splitLiteral?_tail hq (fun r hr => hshort r ?_) hm (splitLiteral?_escape_eq_none.1 h)
          simp only [← hlen, List.length_cons]
          omega
      · obtain ⟨hcq, hread⟩ := (splitLiteral?_cons_eq_none hc).1 h
        have hmc : m ≠ '\\' ∧ m ≠ q := by
          rcases hkept with rfl | rfl
          · exact ⟨hc, hcq⟩
          · exact ⟨by decide, (isQuote_ne hq (by decide)).symm⟩
        rw [hm, splitLiteral?_cons_eq_none hmc.1]
        refine ⟨hmc.2, hread.imp (fun hn => ?_) fun hs => ?_⟩
        · subst hn
          rw [v.text_cons_plain (by decide) (by decide)] at hm
          exact (List.cons.inj hm).1.symm
        · refine v.splitLiteral?_tail hq (fun r hr => hshort r ?_) hm hs
          simp only [← hlen, List.length_cons]
          omega

end View

/-! ## The pieces of a view -/

theorem pieces_blank_append (body w : List Char) :
    pieces (Piece.blank body ++ w) = (Piece.blank body).map .plain ++ pieces w := by
  induction body with
  | nil => rfl
  | cons c cs ih =>
    have hc : Piece.blank (c :: cs) = (if c == '\n' then '\n' else ' ') :: Piece.blank cs := rfl
    rw [hc, List.cons_append, pieces_cons_plain (by split <;> decide) (by split <;> decide), ih]
    rfl

namespace View

/-- The pieces that a shown piece falls into. -/
def remade (v : View) : Piece → List Piece
  | .comment body => (Piece.blank body).map .plain
  | .literal q inner => [.literal q (v.inside inner)]
  | .plain c => [.plain c]

theorem pieces_piece (v : View) {c : Char} {cs rest : List Char} {p : Piece} (h : Leads c cs p rest) :
    pieces (v.piece p ++ v.text rest) = v.remade p ++ pieces (v.text rest) := by
  cases h with
  | line cs => exact pieces_blank_append _ _
  | block cs => exact pieces_blank_append _ _
  | literal hq hs =>
    rw [piece, List.cons_append, List.append_assoc, List.singleton_append, pieces_cons,
      leadingPiece_literal hq (v.splitLiteral?_inside hq hs _)]
    rfl
  | plain hslash hquote =>
    -- a slash sees the same character or a blank behind it, a quote finds no end in the view either
    rw [piece, List.singleton_append, pieces_cons, leadingPiece_unopened]
    · rfl
    · intro hc
      exact ⟨v.text_head?_ne (by decide) (hslash hc).1, v.text_head?_ne (by decide) (hslash hc).2⟩
    · intro hq
      exact v.splitLiteral?_shown hq (hquote hq)

/-- **The pieces of a view are the shown pieces.** -/
theorem pieces_text (v : View) (t : List Char) : pieces (v.text t) = (pieces t).flatMap v.remade := by
  fun_induction pieces t with
  | case1 => simp [pieces]
  | case2 c cs ih =>
    rw [text_cons, v.pieces_piece (leads_leadingPiece c cs), ih, List.flatMap_cons]

theorem masked_remade (v : View) (p : Piece) : (v.remade p).flatMap Piece.masked = p.masked := by
  cases p with
  | comment body => simp [remade, Piece.masked, List.flatMap_map]
  | literal q inner => simp [remade, Piece.masked, (v.inside_kept inner).length_eq]
  | plain c => rfl

/-- The mask of a view is the mask of the text. -/
theorem mask_text (v : View) (t : List Char) : mask (v.text t) = mask t := by
  rw [mask, v.pieces_text, List.flatMap_assoc]
  simp only [v.masked_remade]
  rfl

end View

/-! ## The pieces of a mask -/

/-- The pieces that the mask of a piece falls into. -/
def Piece.remade : Piece → List Piece
  | comment body => (blank body).map plain
  | literal q inner => [literal q (List.replicate inner.length ' ')]
  | plain c => [plain c]

/-- Whether a piece hides nothing: it is no comment, and a literal has only spaces inside. -/
def Piece.isBare : Piece → Bool
  | comment _ => false
  | literal _ inner => inner.all (· == ' ')
  | plain _ => true

theorem Piece.remade_isBare {p p' : Piece} (h : p' ∈ p.remade) : p'.isBare := by
  cases p with
  | comment body =>
    obtain ⟨c, -, rfl⟩ := List.mem_map.1 h
    rfl
  | literal q inner =>
    obtain rfl := List.mem_singleton.1 h
    simp [Piece.isBare]
  | plain c =>
    obtain rfl := List.mem_singleton.1 h
    rfl

theorem View.remade_masked : View.masked.remade = Piece.remade := by
  funext p
  cases p <;> rfl

/-- **The pieces of a mask are the masked pieces.** -/
theorem pieces_mask (t : List Char) : pieces (mask t) = (pieces t).flatMap Piece.remade := by
  rw [← View.text_masked, View.pieces_text, View.remade_masked]

/-- **Masking is idempotent.** -/
theorem mask_mask (t : List Char) : mask (mask t) = mask t := by
  have h := View.masked.mask_text t
  rwa [View.text_masked] at h

/-- Blanking comments does not change the mask. -/
theorem mask_blankComments (t : List Char) : mask (blankComments t) = mask t := by
  rw [← View.text_uncommented, View.mask_text]

/-- **Masking keeps offsets and is complete.** The mask is as long as the text and holds, at every offset, the
    character of the text or a space; its pieces hide nothing, and masking it again changes nothing. -/
theorem mask_keeps_offsets_and_is_complete (t : List Char) :
    (mask t).length = t.length ∧
    (∀ i : Nat, (mask t)[i]? = t[i]? ∨ (mask t)[i]? = some ' ') ∧
    (∀ p ∈ pieces (mask t), p.isBare) ∧
    mask (mask t) = mask t := by
  refine ⟨(mask_kept t).length_eq, kept_getElem? (mask_kept t), fun p hp => ?_, mask_mask t⟩
  rw [pieces_mask] at hp
  obtain ⟨p', -, hp⟩ := List.mem_flatMap.1 hp
  exact Piece.remade_isBare hp

/-- The quote in front opens nothing, since its line ends inside the comment. -/
example : mask "' /* \n ' */ \"a//b\\\"\"".toList = "'    \n      \"      \"".toList := by
  cbv

end SpringAtlas.Source
