/-!
# `Yaml.Cursor` — a place in a YAML text

Indentation is structure in YAML, so a place knows its line and its column. Beyond the end of the text a NUL is
seen, which the text itself cannot hold.
-/

namespace SpringAtlas.Yaml

/-- The character seen beyond the end. -/
def endMark : Char := Char.ofNat 0

/-- The line breaks of YAML. -/
def isBreak (c : Char) : Bool :=
  c == '\n' || c == '\r' || c.toNat == 0x85 || c.toNat == 0x2028 || c.toNat == 0x2029

def isBreakOrEnd (c : Char) : Bool :=
  isBreak c || c == endMark

/-- A space, a tab, a line break or the end. -/
def isGap (c : Char) : Bool :=
  c == ' ' || c == '\t' || isBreakOrEnd c

/-- A space, a line break or the end. -/
def isSpaceOrEnd (c : Char) : Bool :=
  c == ' ' || isBreakOrEnd c

/-- A place in a text: what follows, and where it is. -/
structure Cursor where
  rest : List Char
  index : Nat := 0
  line : Nat := 0
  column : Nat := 0
deriving Repr

namespace Cursor

/-- The character `n` places ahead. -/
def peek (c : Cursor) (n : Nat := 0) : Char :=
  (c.rest[n]?).getD endMark

/-- The place after the next character. A byte order mark takes no column. -/
def step (c : Cursor) : Cursor :=
  match c.rest with
  | [] => c
  | x :: rest =>
    if isBreak x && !(x == '\r' && rest.head? == some '\n') then
      { rest, index := c.index + 1, line := c.line + 1, column := 0 }
    else
      { rest, index := c.index + 1, line := c.line
        column := if x.toNat == 0xFEFF then c.column else c.column + 1 }

def steps : Nat → Cursor → Cursor
  | 0, c => c
  | n + 1, c => steps n c.step

/-- The characters ahead that satisfy `p`. -/
def run (c : Cursor) (p : Char → Bool) : List Char :=
  c.rest.takeWhile p

/-- The place after the characters ahead that satisfy `p`. -/
def skipWhile (c : Cursor) (p : Char → Bool) : Cursor :=
  c.steps (c.run p).length

/-- The line break at this place, with all breaks but the two Unicode separators as a newline. -/
def lineBreak (c : Cursor) : List Char × Cursor :=
  let x := c.peek
  if x == '\r' && c.peek 1 == '\n' then (['\n'], c.steps 2)
  else if x == '\n' || x == '\r' || x.toNat == 0x85 then (['\n'], c.step)
  else if x.toNat == 0x2028 || x.toNat == 0x2029 then ([x], c.step)
  else ([], c)

/-- Whether `---` or `...` stands here, followed by a gap. -/
def atDocumentMark (c : Cursor) : Bool :=
  (c.rest.take 3 == ['-', '-', '-'] || c.rest.take 3 == ['.', '.', '.']) && isGap (c.peek 3)

/-- The place after a comment, if one stands here. -/
def skipComment (c : Cursor) : Cursor :=
  if c.peek == '#' then c.skipWhile fun x => !isBreakOrEnd x else c

end Cursor

end SpringAtlas.Yaml
