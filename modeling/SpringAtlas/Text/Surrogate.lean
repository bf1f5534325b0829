/-!
# `Text.Surrogate` — halves of characters

A text that is put together from code points may hold surrogates, the halves of a pair, which are not characters.
Such a half is kept as a stand-in from a plane without characters, and is written by its own code point. A text with
halves has no encoding in UTF-8.

## Contents
* `ofCodePoint`, `codePoint` — code points as characters
* `EncodingFault`, `encodingFault?` — why a text cannot be encoded
-/

namespace SpringAtlas.Text

def isSurrogate (n : Nat) : Bool :=
  0xD800 ≤ n && n < 0xE000

/-- The distance from a surrogate to its stand-in. -/
def standInShift : Nat := 0x90000

/-- The character of a code point, or the stand-in of a surrogate. -/
def ofCodePoint (n : Nat) : Char :=
  if isSurrogate n then Char.ofNat (n + standInShift) else Char.ofNat n

/-- Whether a character stands in for a surrogate. -/
def isStandIn (c : Char) : Bool :=
  standInShift ≤ c.toNat && isSurrogate (c.toNat - standInShift)

/-- The code point that a character is written with. -/
def codePoint (c : Char) : Nat :=
  if isStandIn c then c.toNat - standInShift else c.toNat

/-! ## Encoding -/

/-- The first run of surrogates in a text. -/
structure EncodingFault where
  position : Nat
  count : Nat
  /-- the first of them -/
  code : Nat
deriving Repr, BEq, DecidableEq

/-- Why a text cannot be encoded, if it cannot. -/
def encodingFault? (cs : List Char) : Option EncodingFault :=
  match cs.dropWhile (!isStandIn ·) with
  | [] => none
  | c :: rest => some {
      position := cs.length - (rest.length + 1)
      count := 1 + (rest.takeWhile isStandIn).length
      code := codePoint c }

def EncodingFault.message (f : EncodingFault) : String :=
  let place := if f.count = 1 then
      "character '\\u" ++ String.ofList (Nat.toDigits 16 f.code) ++ "' in position " ++ toString f.position
    else "characters in position " ++ toString f.position ++ "-" ++ toString (f.position + f.count - 1)
  "'utf-8' codec can't encode " ++ place ++ ": surrogates not allowed"

end SpringAtlas.Text
