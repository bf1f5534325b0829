import SpringAtlas.Pattern.Basic
import SpringAtlas.Text.Search

/-!
# `Pattern.Search` — matches in a text

Searching tries a pattern at one place after another, from the left, and takes the first place where it
matches. All matches of a text are found by going on behind each match, so they do not overlap.

## Contents
* `Match` — where a pattern matched and what its groups hold
* `Pattern.matchAt?`, `Pattern.matchStart?` — a match at a given place
* `Pattern.search?`, `Pattern.searchFrom?` — the leftmost match
* `Pattern.findAll`, `Pattern.replaceAll` — all matches
-/

namespace SpringAtlas

/-- A match: the text from `start` to `stop`, and what was captured inside. -/
structure Match where
  start : Nat
  stop : Nat
  captures : List Capture
deriving Repr, BEq, DecidableEq

namespace Match

/-- Where group `i` was captured last. -/
def span? (m : Match) (i : Nat) : Option (Nat × Nat) :=
  (m.captures.find? fun c => c.index == i).map fun c => (c.start, c.stop)

/-- The text of group `i`, if the match went through it. -/
def group? (m : Match) (text : List Char) (i : Nat) : Option (List Char) :=
  (m.span? i).map fun s => Text.slice text s.1 s.2

/-- The text of group `i`, empty if the match did not go through it. -/
def group (m : Match) (text : List Char) (i : Nat) : List Char :=
  (m.group? text i).getD []

/-- The matched text. -/
def whole (m : Match) (text : List Char) : List Char :=
  Text.slice text m.start m.stop

end Match

namespace Pattern

/-- The preferred match at one place. -/
def matchAt? (p : Pattern) (before : Option Char) (pos stop : Nat) (rest : List Char) : Option Match :=
  (p.run ⟨before, pos, stop, rest, []⟩ some).map fun d => ⟨pos, d.pos, d.captures⟩

/-- The preferred match at the start of a text. -/
def matchStart? (p : Pattern) (text : List Char) : Option Match :=
  p.matchAt? none 0 text.length text

/-! ## The leftmost match -/

/-- The first match at or after a place. -/
def scan? (p : Pattern) (stop : Nat) : Option Char → Nat → List Char → Option Match
  | before, pos, [] => p.matchAt? before pos stop []
  | before, pos, c :: rest =>
    match p.matchAt? before pos stop (c :: rest) with
    | some m => some m
    | none => scan? p stop (some c) (pos + 1) rest

/-- The first match at or after offset `start`, in the text cut off at offset `stop`. -/
def searchIn? (p : Pattern) (text : List Char) (start stop : Nat) : Option Match :=
  let cut := text.take stop
  if start ≤ cut.length then
    p.scan? cut.length (if start = 0 then none else cut[start - 1]?) start (cut.drop start)
  else none

/-- The first match at or after offset `start`. -/
def searchFrom? (p : Pattern) (text : List Char) (start : Nat) : Option Match :=
  p.searchIn? text start text.length

/-- The first match in a text. -/
def search? (p : Pattern) (text : List Char) : Option Match :=
  p.scan? text.length none 0 text

/-- Whether the pattern matches somewhere in a text. -/
def occursIn (p : Pattern) (text : List Char) : Bool :=
  (p.search? text).isSome

/-! ## All matches -/

/-- The worker of `findAll`: `skip` more characters belong to the match found last. -/
def findFrom (p : Pattern) (stop : Nat) : Nat → Option Char → Nat → List Char → List Match
  | _, _, _, [] => []
  | skip + 1, _, pos, c :: rest => findFrom p stop skip (some c) (pos + 1) rest
  | 0, before, pos, c :: rest =>
    match p.matchAt? before pos stop (c :: rest) with
    | some m => m :: findFrom p stop (m.stop - pos - 1) (some c) (pos + 1) rest
    | none => findFrom p stop 0 (some c) (pos + 1) rest

/-- All matches of a pattern that does not match the empty text, from the left, without overlap. -/
def findAll (p : Pattern) (text : List Char) : List Match :=
  p.findFrom text.length 0 none 0 text

/-- The text with the given matches, in order and without overlap, replaced; `done` characters are behind. -/
def splice (f : Match → List Char) : List Match → Nat → List Char → List Char
  | [], _, rest => rest
  | m :: ms, done, rest =>
    rest.take (m.start - done) ++ f m ++ splice f ms m.stop (rest.drop (m.stop - done))

/-- Every match replaced by `f` of it. -/
def replaceWith (p : Pattern) (f : Match → List Char) (text : List Char) : List Char :=
  splice f (p.findAll text) 0 text

/-- Every match replaced by the same text. -/
def replaceAll (p : Pattern) (new text : List Char) : List Char :=
  p.replaceWith (fun _ => new) text

end Pattern

end SpringAtlas
