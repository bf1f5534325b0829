import SpringAtlas.Text.Blank

/-!
# `Text.Search` — finding and replacing fixed pieces of text

Everything here is about a fixed piece of text: whether and where it occurs, what stands before and after it,
and what a text becomes when each occurrence is replaced. Occurrences are taken from the left and do not
overlap.
-/

namespace SpringAtlas.Text

/-- The offset of the first occurrence of `piece` in `cs`. -/
def find (piece : List Char) : List Char → Option Nat
  | [] => if piece.isEmpty then some 0 else none
  | c :: cs => if piece.isPrefixOf (c :: cs) then some 0 else (find piece cs).map (· + 1)

/-- Whether `piece` occurs in `cs`. -/
def contains (piece cs : List Char) : Bool :=
  (find piece cs).isSome

/-- Whether `cs` ends with `piece`. -/
def endsWith (piece cs : List Char) : Bool :=
  piece.isSuffixOf cs

/-- The offset just after the last character of `cs` that satisfies `p`; `0` if there is none. -/
def afterLast (p : Char → Bool) (cs : List Char) : Nat :=
  cs.length - (cs.reverse.takeWhile fun c => !p c).length

/-- The text before the first occurrence of `piece` and the text after it. -/
def cutAt (piece cs : List Char) : Option (List Char × List Char) :=
  (find piece cs).map fun i => (cs.take i, cs.drop (i + piece.length))

/-- The text before the last occurrence of `piece` and the text after it. -/
def cutAtLast (piece cs : List Char) : Option (List Char × List Char) :=
  (cutAt piece.reverse cs.reverse).map fun r => (r.2.reverse, r.1.reverse)

/-- The worker of `replace`: skips `skip` characters, which belong to an occurrence already replaced. -/
def replaceFrom (old new : List Char) : Nat → List Char → List Char
  | _, [] => []
  | skip + 1, _ :: cs => replaceFrom old new skip cs
  | 0, c :: cs =>
    if old.isPrefixOf (c :: cs) then new ++ replaceFrom old new (old.length - 1) cs
    else c :: replaceFrom old new 0 cs

/-- Each occurrence of the non-empty text `old` replaced by `new`. -/
def replace (old new cs : List Char) : List Char :=
  replaceFrom old new 0 cs

/-- The characters of `cs` from offset `i` up to offset `j`. -/
def slice (cs : List Char) (i j : Nat) : List Char :=
  (cs.take j).drop i

/-- The first of each group of equal elements, in order of first appearance. -/
def distinct [BEq α] (xs : List α) : List α :=
  xs.foldl (fun seen x => if seen.contains x then seen else seen ++ [x]) []

end SpringAtlas.Text
