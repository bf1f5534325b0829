import SpringAtlas.Text.Blank

/-!
# `Text.Lines` — line breaks

Two notions of a line are in use. Offsets and line numbers count the newline character only (`lines`,
`lineNumber`); a reader of whole files takes every Unicode line break, and a carriage return with the newline
after it as one (`splitLines`).
-/

namespace SpringAtlas.Text

/-- The characters at which `splitLines` ends a line. -/
def isLineBreak (c : Char) : Bool :=
  let n := c.toNat
  (10 ≤ n && n ≤ 13) || (28 ≤ n && n ≤ 30) || n == 0x85 || n == 0x2028 || n == 0x2029

/-- The lines of a text without their breaks. A break at the very end opens no further line. -/
def splitLines : List Char → List (List Char)
  | [] => []
  | '\r' :: '\n' :: cs => [] :: splitLines cs
  | c :: cs => if isLineBreak c then [] :: splitLines cs else consHead c (splitLines cs)

/-- The pieces between newlines; always at least one. -/
def lines (cs : List Char) : List (List Char) :=
  splitWhere (· == '\n') cs

/-- The offset that `i` stands for in a text of `size` characters: negative offsets count from the end, and
    offsets outside the text are moved to its ends. -/
def clampOffset (size : Nat) (i : Int) : Nat :=
  if i < 0 then (i + size).toNat else min i.toNat size

/-- The number of newlines before offset `n`. -/
def newlinesBefore (cs : List Char) (n : Nat) : Nat :=
  (cs.take n).count '\n'

/-- The 1-based line of offset `n`. -/
def lineNumber (cs : List Char) (n : Nat) : Nat :=
  newlinesBefore cs n + 1

end SpringAtlas.Text
