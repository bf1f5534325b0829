import SpringAtlas.Text.Quoted

/-!
# `Text.Utf8` — text in bytes

A character is written as one to four bytes. The first byte says how many follow and in which range each of
them lies; a text is at fault where a byte starts nothing, where a byte is out of its range, or where it ends
inside a character.

## Contents
* `followingRanges?` — what may follow a first byte
* `Utf8Fault` — why bytes are no text
* `decodeUtf8` — the characters of some bytes, or the first fault
-/

namespace SpringAtlas.Text

/-- The range of a byte inside a character. -/
def innerRange : Nat × Nat := (0x80, 0xBF)

/-- The ranges of the bytes after a first byte; none if the byte is not a first one. The narrower ranges leave out
    longer forms of characters, surrogates and code points beyond the last one. -/
def followingRanges? (first : Nat) : Option (List (Nat × Nat)) :=
  if first < 0x80 then some []
  else if first < 0xC2 then none
  else if first < 0xE0 then some [innerRange]
  else if first = 0xE0 then some [(0xA0, 0xBF), innerRange]
  else if first = 0xED then some [(0x80, 0x9F), innerRange]
  else if first < 0xF0 then some [innerRange, innerRange]
  else if first = 0xF0 then some [(0x90, 0xBF), innerRange, innerRange]
  else if first < 0xF4 then some [innerRange, innerRange, innerRange]
  else if first = 0xF4 then some [(0x80, 0x8F), innerRange, innerRange]
  else none

inductive Utf8Cause where
  | badStart
  | badContinuation
  | cutOff
deriving Repr, BEq, DecidableEq

/-- A fault: where it is, and the bytes that belong to it. -/
structure Utf8Fault where
  position : Nat
  bytes : List Nat
  cause : Utf8Cause
deriving Repr, BEq, DecidableEq

def Utf8Cause.message : Utf8Cause → String
  | badStart => "invalid start byte"
  | badContinuation => "invalid continuation byte"
  | cutOff => "unexpected end of data"

/-- The bytes and their positions, and what is wrong with them. -/
def Utf8Fault.message (f : Utf8Fault) : String :=
  let which := match f.bytes with
    | [b] => "byte 0x" ++ String.ofList (hex 2 b) ++ " in position " ++ toString f.position
    | bs => "bytes in position " ++ toString f.position ++ "-" ++ toString (f.position + bs.length - 1)
  "'utf-8' codec can't decode " ++ which ++ ": " ++ f.cause.message

/-- The bytes that lie in the ranges, up to the first that does not. -/
def fitting : List (Nat × Nat) → List Nat → List Nat
  | r :: rs, b :: bs => if r.1 ≤ b && b ≤ r.2 then b :: fitting rs bs else []
  | _, _ => []

/-- The character of a first byte and the bytes that follow it. -/
def utf8Char (first : Nat) (inner : List Nat) : Char :=
  let top := match inner.length with
    | 0 => first
    | 1 => first - 0xC0
    | 2 => first - 0xE0
    | _ => first - 0xF0
  Char.ofNat (inner.foldl (fun n b => 64 * n + (b - 0x80)) top)

/-- Reads bytes that start at a position; `done` holds the characters before them, the last one first. -/
def decodeUtf8From (position : Nat) (done : List Char) : List Nat → Except Utf8Fault (List Char)
  | [] => .ok done.reverse
  | b :: bs =>
    match followingRanges? b with
    | none => .error ⟨position, [b], .badStart⟩
    | some ranges =>
      let inner := fitting ranges bs
      if inner.length = ranges.length then
        decodeUtf8From (position + 1 + inner.length) (utf8Char b inner :: done) (bs.drop inner.length)
      else .error ⟨position, b :: inner, if inner.length = bs.length then .cutOff else .badContinuation⟩
termination_by bs => bs.length
decreasing_by simp only [List.length_drop, List.length_cons]; omega

/-- The characters of some bytes, or the first fault. -/
def decodeUtf8 (content : ByteArray) : Except Utf8Fault (List Char) :=
  decodeUtf8From 0 [] (content.toList.map UInt8.toNat)

end SpringAtlas.Text
