/-!
# `Text.Blank` — white space

White space is the set of Unicode characters that separate words: the ASCII blanks, the four information
separators, the next-line character, the no-break space and the typographic spaces. Trimming and word
splitting go by this set.

## Contents
* `isBlank` — the set
* `trimStart`, `trimEnd`, `trim`, `trimWhere` — text without the blanks at its ends
* `splitWhere`, `words` — the pieces between separators, the non-empty ones between blanks
-/

namespace SpringAtlas.Text

def isBlank (c : Char) : Bool :=
  let n := c.toNat
  (9 ≤ n && n ≤ 13) || (28 ≤ n && n ≤ 32) || n == 0x85 || n == 0xA0 || n == 0x1680 ||
  (0x2000 ≤ n && n ≤ 0x200A) || n == 0x2028 || n == 0x2029 || n == 0x202F || n == 0x205F || n == 0x3000

/-! ## Trimming -/

/-- `cs` without the longest run at its end whose characters all satisfy `p`. -/
def dropEndWhile (p : Char → Bool) (cs : List Char) : List Char :=
  (cs.reverse.dropWhile p).reverse

def trimWhere (p : Char → Bool) (cs : List Char) : List Char :=
  dropEndWhile p (cs.dropWhile p)

def trimStart (cs : List Char) : List Char :=
  cs.dropWhile isBlank

def trimEnd (cs : List Char) : List Char :=
  dropEndWhile isBlank cs

def trim (cs : List Char) : List Char :=
  trimWhere isBlank cs

/-! ## Splitting -/

/-- Puts `c` in front of the first piece. -/
def consHead (c : Char) : List (List Char) → List (List Char)
  | [] => [[c]]
  | w :: ws => (c :: w) :: ws

/-- The pieces between the characters that satisfy `p`; there is one more piece than such characters. -/
def splitWhere (p : Char → Bool) : List Char → List (List Char)
  | [] => [[]]
  | c :: cs => if p c then [] :: splitWhere p cs else consHead c (splitWhere p cs)

/-- The maximal runs of characters that are not blank. -/
def words (cs : List Char) : List (List Char) :=
  (splitWhere isBlank cs).filter fun w => !w.isEmpty

/-- The pieces joined with `sep` between them. -/
def join (sep : List Char) (pieces : List (List Char)) : List Char :=
  (pieces.intersperse sep).flatten

/-- Every run of blanks as one space, none at the ends. -/
def squeeze (cs : List Char) : List Char :=
  join [' '] (words cs)

end SpringAtlas.Text
