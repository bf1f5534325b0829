import SpringAtlas.Text.Blank
import SpringAtlas.Text.Case
import SpringAtlas.Text.Letter

/-!
# `Pattern.Basic` — text patterns and how they match

A `Pattern` describes pieces of text. Matching is *ordered*: of all the ways in which a pattern can match at a
place, the first one in the order of preference counts, where `alt` prefers its left side, `star` prefers
more repetitions and `lazyStar` prefers fewer. `Pattern.run` explores the ways in that order and hands each to
a continuation until one is accepted.

A `Cursor` is a place in a text together with what has been captured on the way. It knows the character before
it, so that a pattern can look back one character even where a search starts in the middle of a text.

## Contents
* `Pattern`, `Cursor`, `Capture`
* `Pattern.run` — the ways of matching, by continuation
* `Pattern.lit`, `Pattern.caseless`, `Pattern.oneOf`, … — combinators
-/

namespace SpringAtlas

/-- A description of pieces of text. -/
inductive Pattern where
  /-- the empty text -/
  | empty
  /-- one character of a class -/
  | one (ok : Char → Bool)
  | seq (p q : Pattern)
  /-- `p`, else `q` -/
  | alt (p q : Pattern)
  /-- any number of `p`, as many as possible first -/
  | star (p : Pattern)
  /-- any number of `p`, as few as possible first -/
  | lazyStar (p : Pattern)
  /-- `p`, remembered under a number -/
  | group (index : Nat) (p : Pattern)
  /-- the empty text where `p` does not match -/
  | notAhead (p : Pattern)
  /-- the empty text where the character before, if any, is not in the class -/
  | notBehind (ok : Char → Bool)
  /-- the empty text between a word character and a place without one -/
  | wordEdge
  /-- the empty text at the start of the text -/
  | textStart
  /-- the empty text at the start of a line -/
  | lineStart
  /-- the empty text at the end of the text, or before a newline that ends it -/
  | lastLineEnd

/-- The text from `start` to `stop`, remembered as group `index`. -/
structure Capture where
  index : Nat
  start : Nat
  stop : Nat
deriving Repr, BEq, DecidableEq

/-- A place in a text that ends at offset `stop`, with the captures made so far, latest first. -/
structure Cursor where
  before : Option Char
  pos : Nat
  stop : Nat
  rest : List Char
  captures : List Capture
deriving Repr

namespace Cursor

/-- The place after the next character. -/
def advance (c : Cursor) (x : Char) (rest : List Char) : Cursor :=
  { c with before := some x, pos := c.pos + 1, rest := rest }

/-- Exactly one of the two neighbours is a word character. -/
def atWordEdge (c : Cursor) : Bool :=
  (c.before.any Text.isWord) != (c.rest.head?.any Text.isWord)

def atLineStart (c : Cursor) : Bool :=
  c.pos == 0 || c.before == some '\n'

def atLastLineEnd (c : Cursor) : Bool :=
  c.rest.isEmpty || c.rest == ['\n']

end Cursor

namespace Pattern

/-- One way of going on: succeed with a final place, or ask for the next way. -/
abbrev Next := Cursor → Option Cursor

/-! ## Repetition -/

/-- At most `n` times `body`, more before fewer; a repetition has to move. -/
def repeatMore (body : Cursor → Next → Option Cursor) (k : Next) : Nat → Cursor → Option Cursor
  | 0, c => k c
  | n + 1, c =>
    match body c fun d => if c.pos < d.pos then repeatMore body k n d else none with
    | some d => some d
    | none => k c

/-- At most `n` times `body`, fewer before more; a repetition has to move. -/
def repeatLess (body : Cursor → Next → Option Cursor) (k : Next) : Nat → Cursor → Option Cursor
  | 0, c => k c
  | n + 1, c =>
    match k c with
    | some d => some d
    | none => body c fun d => if c.pos < d.pos then repeatLess body k n d else none

/-! ## Matching -/

/-- Tries the ways in which the pattern matches at `c`, in order of preference, until `k` accepts the place
    after one. A repetition moves each time, so the rest of the text bounds their number. -/
def run : Pattern → Cursor → Next → Option Cursor
  | empty, c, k => k c
  | one ok, c, k =>
    match c.rest with
    | x :: rest => if ok x then k (c.advance x rest) else none
    | [] => none
  | seq p q, c, k => run p c fun d => run q d k
  | alt p q, c, k =>
    match run p c k with
    | some d => some d
    | none => run q c k
  | star p, c, k => repeatMore (run p) k (c.stop - c.pos) c
  | lazyStar p, c, k => repeatLess (run p) k (c.stop - c.pos) c
  | group i p, c, k => run p c fun d => k { d with captures := ⟨i, c.pos, d.pos⟩ :: d.captures }
  | notAhead p, c, k => if (run p c some).isSome then none else k c
  | notBehind ok, c, k => if c.before.any ok then none else k c
  | wordEdge, c, k => if c.atWordEdge then k c else none
  | textStart, c, k => if c.pos == 0 then k c else none
  | lineStart, c, k => if c.atLineStart then k c else none
  | lastLineEnd, c, k => if c.atLastLineEnd then k c else none

/-! ## Combinators -/

instance : Append Pattern := ⟨seq⟩

instance : OrElse Pattern := ⟨fun p q => alt p (q ())⟩

/-- The patterns one after another. -/
def chain (ps : List Pattern) : Pattern :=
  ps.foldr seq empty

/-- Exactly the text `s`. -/
def lit (s : String) : Pattern :=
  chain (s.toList.map fun c => one (· == c))

/-- The text `s`, written in small letters, in any case. -/
def caseless (s : String) : Pattern :=
  chain (s.toList.map fun c => one (Text.sameLetter c))

/-- The first of the patterns that leads to a match; the list is not empty. -/
def anyOf : List Pattern → Pattern
  | [] => notAhead empty
  | [p] => p
  | p :: ps => alt p (anyOf ps)

def oneOf (ss : List String) : Pattern :=
  anyOf (ss.map lit)

/-- `p` or nothing, preferring `p`. -/
def opt (p : Pattern) : Pattern :=
  alt p empty

/-- `p` at least once. -/
def plus (p : Pattern) : Pattern :=
  seq p (star p)

/-- `p` exactly `n` times. -/
def times (n : Nat) (p : Pattern) : Pattern :=
  chain (List.replicate n p)

/-- `p` at most `n` times, more before fewer. -/
def atMost : Nat → Pattern → Pattern
  | 0, _ => empty
  | n + 1, p => opt (seq p (atMost n p))

/-- One character of `s`. -/
def among (s : String) : Pattern :=
  one fun c => s.toList.contains c

/-- One character outside `s`. -/
def except (s : String) : Pattern :=
  one fun c => !s.toList.contains c

/-- Any number of blanks. -/
def blanks : Pattern :=
  star (one Text.isBlank)

/-- At least one blank. -/
def blanks1 : Pattern :=
  plus (one Text.isBlank)

/-- A character that is not a newline. -/
def inLine : Pattern :=
  one (· != '\n')

/-- Any character. -/
def any : Pattern :=
  one fun _ => true

/-- One word character. -/
def word : Pattern :=
  one Text.isWord

end Pattern

end SpringAtlas
