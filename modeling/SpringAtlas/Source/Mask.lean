/-!
# `Source.Mask` — comments and literals of a source text

A source text falls into comments, quoted literals and plain characters. The *mask* of a text blanks comments
and the insides of literals, so that a pattern that runs over the mask is not misled by them, while offsets
stay those of the text.

A literal ends at the first quote that no backslash escapes, and has to end on its line; a quote that opens no
literal is a plain character. A block comment without an end runs to the end of the text.

## Contents
* `Piece`, `pieces` — the text cut into comments, literals and plain characters
* `mask` — comments and the insides of literals blanked
* `blankComments` — comments blanked, literals kept
-/

namespace SpringAtlas.Source

/-- A part of a source text. -/
inductive Piece where
  | comment (body : List Char)
  /-- the text between two `quote` characters -/
  | literal (quote : Char) (inner : List Char)
  | plain (c : Char)
deriving Repr, BEq, DecidableEq

namespace Piece

/-- The piece as it stands in the source. -/
def text : Piece → List Char
  | comment body => body
  | literal q inner => q :: (inner ++ [q])
  | plain c => [c]

/-- A text of spaces that keeps the newlines. -/
def blank (cs : List Char) : List Char :=
  cs.map fun c => if c == '\n' then '\n' else ' '

/-- The piece in the mask: a literal keeps its quotes only. -/
def masked : Piece → List Char
  | comment body => blank body
  | literal q inner => q :: (List.replicate inner.length ' ' ++ [q])
  | plain c => [c]

/-- The piece with comments blanked. -/
def uncommented : Piece → List Char
  | comment body => blank body
  | p => p.text

end Piece

/-! ## Cutting a text into pieces -/

/-- The text up to and including the first `*/`, or all of it, and what follows. -/
def splitBlockComment : List Char → List Char × List Char
  | [] => ([], [])
  | '*' :: '/' :: cs => (['*', '/'], cs)
  | c :: cs => (c :: (splitBlockComment cs).1, (splitBlockComment cs).2)

/-- The inside of a literal whose opening quote has been read, and what follows its closing quote. -/
def splitLiteral? (quote : Char) : List Char → Option (List Char × List Char)
  | [] => none
  | '\\' :: [] => none
  | '\\' :: c :: cs => (splitLiteral? quote cs).map fun r => ('\\' :: c :: r.1, r.2)
  | c :: cs =>
    if c == quote then some ([], cs)
    else if c == '\n' then none
    else (splitLiteral? quote cs).map fun r => (c :: r.1, r.2)

def isQuote (c : Char) : Bool :=
  c == '"' || c.toNat == 39

/-- The piece that starts with `c`, and the text behind it. -/
def leadingPiece (c : Char) (cs : List Char) : Piece × List Char :=
  if c == '/' && cs.head? == some '/' then
    (.comment (c :: cs.takeWhile (· != '\n')), cs.dropWhile (· != '\n'))
  else if c == '/' && cs.head? == some '*' then
    (.comment (c :: '*' :: (splitBlockComment cs.tail).1), (splitBlockComment cs.tail).2)
  else if isQuote c then
    match splitLiteral? c cs with
    | some (inner, rest) => (.literal c inner, rest)
    | none => (.plain c, cs)
  else (.plain c, cs)

theorem splitBlockComment_length (cs : List Char) : (splitBlockComment cs).2.length ≤ cs.length := by
  fun_induction splitBlockComment cs <;> simp <;> omega

theorem splitLiteral?_length {q : Char} {cs inner rest : List Char}
    (h : splitLiteral? q cs = some (inner, rest)) : rest.length < cs.length := by
  fun_induction splitLiteral? q cs generalizing inner rest with
  | case1 => simp at h
  | case2 => simp at h
  | case3 c cs ih =>
    obtain ⟨⟨i, r⟩, hr, he⟩ := Option.map_eq_some_iff.1 h
    have := ih hr
    simp only [Prod.mk.injEq] at he
    simp only [List.length_cons, ← he.2]
    omega
  | case4 c cs _ hq => simp only [Option.some.injEq, Prod.mk.injEq] at h; simp [h.2]
  | case5 => simp at h
  | case6 c cs _ hq hn _ ih =>
    obtain ⟨⟨i, r⟩, hr, he⟩ := Option.map_eq_some_iff.1 h
    have := ih hr
    simp only [Prod.mk.injEq] at he
    simp only [List.length_cons, ← he.2]
    omega

/-- Behind the first piece of a text no more is left than behind its first character. -/
theorem leadingPiece_length (c : Char) (cs : List Char) : (leadingPiece c cs).2.length ≤ cs.length := by
  unfold leadingPiece
  split
  · exact (List.dropWhile_sublist _).length_le
  · split
    · exact Nat.le_trans (splitBlockComment_length _) (by simp)
    · split
      · split
        · next h => exact Nat.le_of_lt (splitLiteral?_length h)
        · exact Nat.le_refl _
      · exact Nat.le_refl _

/-- The pieces of a text, in order. -/
def pieces : List Char → List Piece
  | [] => []
  | c :: cs => (leadingPiece c cs).1 :: pieces (leadingPiece c cs).2
termination_by cs => cs.length
decreasing_by exact Nat.lt_succ_of_le (leadingPiece_length c cs)

/-! ## Views of the pieces -/

/-- The text with comments and the insides of literals blanked. -/
def mask (cs : List Char) : List Char :=
  (pieces cs).flatMap Piece.masked

/-- The text with comments blanked. -/
def blankComments (cs : List Char) : List Char :=
  (pieces cs).flatMap Piece.uncommented

end SpringAtlas.Source
