import SpringAtlas.Yaml.Cursor
import SpringAtlas.Yaml.Value

/-!
# `Yaml.Scalar` — the text of scalars

Scalars are written plainly, between quotes, or as an indented block. Each form has its own rules for line
breaks: in plain and quoted scalars a single break is folded to a space, a literal block keeps its breaks, and a
folded block folds those between lines that are not indented further.

## Contents
* `plainScalar` — a scalar without quotes
* `quotedScalar` — single and double quotes, with escapes
* `blockScalar` — literal and folded blocks
-/

namespace SpringAtlas.Yaml

/-- A scanned text and the place after it. -/
abbrev Scanned := Except Fault (List Char × Cursor)

/-! ## Plain scalars -/

/-- Whether a plain scalar ends before `c`, which is followed by `next`. -/
def endsPlain (inFlow : Bool) (c next : Char) : Bool :=
  isGap c || (c == ':' && (isGap next || (inFlow && ",[]\x7b\x7d".toList.contains next))) ||
  (inFlow && ",?[]\x7b\x7d".toList.contains c)

/-- The characters of a plain scalar up to the next gap or indicator. -/
def plainWord (inFlow : Bool) : List Char → List Char
  | [] => []
  | c :: cs => if endsPlain inFlow c (cs.head?.getD endMark) then [] else c :: plainWord inFlow cs

/-- Breaks and spaces after a line break; `none` where a document mark ends the scalar. -/
def plainBreaks : Nat → Cursor → List Char → Option (List Char) × Cursor
  | 0, c, breaks => (some breaks, c)
  | fuel + 1, c, breaks =>
    if c.peek == ' ' then plainBreaks fuel c.step breaks
    else if isBreak c.peek then
      let (b, d) := c.lineBreak
      if d.atDocumentMark then (none, d) else plainBreaks fuel d (breaks ++ b)
    else (some breaks, c)

/-- The text that stands for the gap after a word of a plain scalar, empty if there is none or if the scalar
    ends; the place after it, and whether it went over a line break. -/
def plainGap (c : Cursor) : List Char × Cursor × Bool :=
  let spaces := c.run (· == ' ')
  let d := c.steps spaces.length
  if isBreak d.peek then
    let (b, e) := d.lineBreak
    if e.atDocumentMark then ([], e, true)
    else match plainBreaks (e.rest.length + 1) e [] with
      | (none, f) => ([], f, true)
      | (some breaks, f) =>
        ((if b != ['\n'] then b else if breaks.isEmpty then [' '] else []) ++ breaks, f, true)
  else (spaces, d, false)

/-- The words of a plain scalar, from a place on; `gap` is what stands before the next one. The result tells
    whether a simple key may follow, which is so after a line break. -/
def plainFrom (inFlow : Bool) (indent : Int) :
    Nat → Cursor → List Char → List Char → Bool → List Char × Cursor × Bool
  | 0, c, _, text, fresh => (text, c, fresh)
  | fuel + 1, c, gap, text, fresh =>
    let word := plainWord inFlow c.rest
    if c.peek == '#' || word.isEmpty then (text, c, fresh)
    else
      let text := text ++ gap ++ word
      let (gap, d, broke) := plainGap (c.steps word.length)
      if gap.isEmpty || d.peek == '#' || (!inFlow && d.column < indent) then (text, d, broke)
      else plainFrom inFlow indent fuel d gap text broke

/-- A plain scalar in a collection indented by `indent - 1`. -/
def plainScalar (inFlow : Bool) (indent : Int) (c : Cursor) : List Char × Cursor × Bool :=
  plainFrom inFlow indent (c.rest.length + 1) c [] [] false

/-! ## Quoted scalars -/

/-- The character that an escape with one letter stands for. -/
def escapeOf (c : Char) : Option Nat :=
  [('0', 0), ('a', 7), ('b', 8), ('t', 9), ('\t', 9), ('n', 10), ('v', 11), ('f', 12), ('r', 13),
   ('e', 27), (' ', 32), ('"', 34), ('\\', 92), ('/', 47), ('N', 0x85), ('_', 0xA0), ('L', 0x2028),
   ('P', 0x2029)].lookup c

/-- The number of hexadecimal digits after an escape letter. -/
def escapeWidth (c : Char) : Option Nat :=
  [('x', 2), ('u', 4), ('U', 8)].lookup c

def hexDigit? (c : Char) : Option Nat :=
  if 48 ≤ c.toNat && c.toNat ≤ 57 then some (c.toNat - 48)
  else if 97 ≤ c.toNat && c.toNat ≤ 102 then some (c.toNat - 87)
  else if 65 ≤ c.toNat && c.toNat ≤ 70 then some (c.toNat - 55)
  else none

/-- The number that hexadecimal digits write. -/
def hexNumber? (cs : List Char) : Option Nat :=
  cs.foldlM (fun n c => (hexDigit? c).map (16 * n + ·)) 0

/-- Blank lines inside a quoted scalar, up to the next text. -/
def quotedBreaks : Nat → Cursor → List Char → Scanned
  | 0, c, breaks => .ok (breaks, c)
  | fuel + 1, c, breaks =>
    if c.atDocumentMark then .error .malformed
    else
      let d := c.skipWhile fun x => x == ' ' || x == '\t'
      if isBreak d.peek then
        let (b, e) := d.lineBreak
        quotedBreaks fuel e (breaks ++ b)
      else .ok (breaks, d)

/-- The text that stands for the white space at this place. -/
def quotedGap (c : Cursor) : Scanned := do
  let spaces := c.run fun x => x == ' ' || x == '\t'
  let d := c.steps spaces.length
  if d.peek == endMark then throw .malformed
  else if isBreak d.peek then
    let (b, e) := d.lineBreak
    let (breaks, f) ← quotedBreaks (e.rest.length + 1) e []
    return ((if b != ['\n'] then b else if breaks.isEmpty then [' '] else []) ++ breaks, f)
  else return (spaces, d)

/-- The text of an escape whose backslash has been read. -/
def escapeText (c : Cursor) : Scanned :=
  match escapeOf c.peek, escapeWidth c.peek with
  | some n, _ => .ok ([Char.ofNat n], c.step)
  | none, some width =>
    let ds := c.step.rest.take width
    match hexNumber? ds with
    | some n =>
      if ds.length < width then .error .malformed
      else if n < 0x110000 then .ok ([Text.ofCodePoint n], c.step.steps width)
      else .error (.badCodePoint n)
    | none => .error .malformed
  | none, none =>
    if isBreak c.peek then quotedBreaks (c.rest.length + 1) c.lineBreak.2 []
    else .error .malformed

/-- Quoted text up to the next white space or the closing quote. -/
def quotedWord (double : Bool) : Nat → Cursor → List Char → Scanned
  | 0, c, text => .ok (text, c)
  | fuel + 1, c, text =>
    let plain := c.run fun x => !(isGap x || x == '"' || x.toNat == 39 || x == '\\')
    let text := text ++ plain
    let d := c.steps plain.length
    let x := d.peek
    if !double && x.toNat == 39 && (d.peek 1).toNat == 39 then
      quotedWord double fuel (d.steps 2) (text ++ [x])
    else if (double && x.toNat == 39) || (!double && (x == '"' || x == '\\')) then
      quotedWord double fuel d.step (text ++ [x])
    else if double && x == '\\' then
      match escapeText d.step with
      | .ok (e, f) => quotedWord double fuel f (text ++ e)
      | .error fault => .error fault
    else .ok (text, d)

/-- Quoted text up to the closing quote. -/
def quotedFrom (double : Bool) : Nat → Cursor → List Char → Scanned
  | 0, _, _ => .error .malformed
  | fuel + 1, c, text => do
    let (word, d) ← quotedWord double (c.rest.length + 1) c []
    let text := text ++ word
    if d.peek == (if double then '"' else Char.ofNat 39) then return (text, d.step)
    let (gap, e) ← quotedGap d
    quotedFrom double fuel e (text ++ gap)

/-- A quoted scalar, from its opening quote on. -/
def quotedScalar (double : Bool) (c : Cursor) : Scanned :=
  quotedFrom double (c.rest.length + 1) c.step []

/-! ## Block scalars -/

/-- What happens to the line breaks at the end of a block. -/
inductive Chomping where
  | strip
  | clip
  | keep
deriving BEq

/-- The header of a block: its chomping and its indentation indicator. -/
def blockHeader (c : Cursor) : Except Fault (Chomping × Option Nat × Cursor) :=
  let chomping? (x : Char) : Option Chomping :=
    if x == '+' then some .keep else if x == '-' then some .strip else none
  let digit? (x : Char) : Option Nat :=
    if 48 ≤ x.toNat && x.toNat ≤ 57 then some (x.toNat - 48) else none
  let finish (chomping : Chomping) (increment : Option Nat) (d : Cursor) :=
    if increment == some 0 || !isSpaceOrEnd d.peek then .error .malformed
    else .ok (chomping, increment, d)
  match chomping? c.peek, digit? c.peek with
  | some k, _ => match digit? c.step.peek with
    | some n => finish k (some n) (c.steps 2)
    | none => finish k none c.step
  | none, some n => match chomping? c.step.peek with
    | some k => finish k (some n) (c.steps 2)
    | none => finish .clip (some n) c.step
  | none, none => finish .clip none c

/-- The rest of a header line, which holds a comment at most. -/
def ignoredLine (c : Cursor) : Except Fault Cursor :=
  let d := (c.skipWhile (· == ' ')).skipComment
  if isBreakOrEnd d.peek then .ok d.lineBreak.2 else .error .malformed

/-- The place after the spaces that belong to an indentation of `indent`. -/
def skipIndent (indent : Nat) (c : Cursor) : Cursor :=
  c.steps (min (indent - c.column) (c.run (· == ' ')).length)

/-- Blank lines in a block indented by `indent`. -/
def blockBreaks (indent : Nat) : Nat → Cursor → List Char → List Char × Cursor
  | 0, c, breaks => (breaks, c)
  | fuel + 1, c, breaks =>
    let d := skipIndent indent c
    if isBreak d.peek then
      let (b, e) := d.lineBreak
      blockBreaks indent fuel e (breaks ++ b)
    else (breaks, d)

/-- Blank lines at the start of a block without an indicator, and the widest indentation among them and the
    first line of text. -/
def blockIndentation : Nat → Cursor → List Char → Nat → List Char × Nat × Cursor
  | 0, c, breaks, widest => (breaks, widest, c)
  | fuel + 1, c, breaks, widest =>
    if c.peek == ' ' then blockIndentation fuel c.step breaks (max widest c.step.column)
    else if isBreak c.peek then
      let (b, d) := c.lineBreak
      blockIndentation fuel d (breaks ++ b) widest
    else (breaks, widest, c)

/-- The lines of a block. `breaks` are the blank lines before the next line and `last` the break before them. -/
def blockLines (folded : Bool) (indent : Nat) :
    Nat → Cursor → List Char → List Char → List Char × List Char × List Char × Cursor
  | 0, c, breaks, text => (text, [], breaks, c)
  | fuel + 1, c, breaks, text =>
    let flush := c.peek != ' ' && c.peek != '\t'
    let line := c.run fun x => !isBreakOrEnd x
    let text := text ++ breaks ++ line
    let (last, d) := (c.steps line.length).lineBreak
    let (breaks, e) := blockBreaks indent (d.rest.length + 1) d []
    if e.column == indent && e.peek != endMark then
      let joint :=
        if folded && last == ['\n'] && flush && e.peek != ' ' && e.peek != '\t' then
          (if breaks.isEmpty then [' '] else [])
        else last
      blockLines folded indent fuel e breaks (text ++ joint)
    else (text, last, breaks, e)

/-- A block scalar, from its indicator on, in a collection indented by `indent`. -/
def blockScalar (folded : Bool) (indent : Int) (c : Cursor) : Scanned := do
  let (chomping, increment, d) ← blockHeader c.step
  let e ← ignoredLine d
  let least := (max 1 (indent + 1)).toNat
  let fuel := e.rest.length + 1
  let (breaks, width, f) := match increment with
    | some n =>
      let (breaks, f) := blockBreaks (least + n - 1) fuel e []
      (breaks, least + n - 1, f)
    | none =>
      let (breaks, widest, f) := blockIndentation fuel e [] 0
      (breaks, max least widest, f)
  let (text, last, breaks, g) :=
    if f.column == width && f.peek != endMark then blockLines folded width fuel f breaks []
    else ([], [], breaks, f)
  return (text ++ (if chomping == .strip then [] else last) ++ (if chomping == .keep then breaks else []), g)

end SpringAtlas.Yaml
