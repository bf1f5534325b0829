/-!
# `Log.Place` — places for arguments in a message

A message may have places for arguments, and two percent signs stand for one. A place is a percent sign, an optional name in brackets, flags, a width,
a precision after a point, a size letter without meaning, and a letter that says how the argument is shown.

## Contents
* `Place`, `PlaceKey`, `PlaceFlags`, `PlaceSize` — places as they are written
* `readPlace` — the place at the front of a text, and what follows it
* `Piece`, `pieces` — a message as characters and places
-/

namespace SpringAtlas

/-- Which argument a place asks for. -/
inductive PlaceKey where
  /-- the next one -/
  | next
  | named (key : String)
  /-- a name whose bracket is not closed -/
  | unclosed
deriving Repr, BEq, DecidableEq

structure PlaceFlags where
  /-- `-`: blanks go to the right -/
  left : Bool
  /-- `+`: a number always has a sign -/
  signed : Bool
  /-- a blank stands where a minus would -/
  blank : Bool
  /-- `#`: the full form of a number -/
  full : Bool
  /-- `0`: a number is filled up with zeros -/
  zero : Bool
deriving Repr, BEq, DecidableEq

/-- A width or a precision. -/
inductive PlaceSize where
  | absent
  | written (n : Nat)
  /-- taken from the arguments -/
  | taken
deriving Repr, BEq, DecidableEq

structure Place where
  key : PlaceKey
  flags : PlaceFlags
  width : PlaceSize
  precision : PlaceSize
  /-- how the argument is shown; missing if the text ends before -/
  kind : Option Char
deriving Repr, BEq, DecidableEq

/-! ## Reading -/

/-- The text up to the bracket that closes the last of `depth` open ones, and what follows it. -/
def closeKey? : Nat → List Char → Option (List Char × List Char)
  | _, [] => none
  | depth, c :: cs =>
    if c == ')' && depth ≤ 1 then some ([], cs)
    else
      let inner := if c == '(' then depth + 1 else if c == ')' then depth - 1 else depth
      (closeKey? inner cs).map fun r => (c :: r.1, r.2)

def readKey : List Char → PlaceKey × List Char
  | '(' :: cs =>
    match closeKey? 1 cs with
    | some (key, rest) => (.named (String.ofList key), rest)
    | none => (.unclosed, [])
  | cs => (.next, cs)

def isFlag (c : Char) : Bool :=
  c == '-' || c == '+' || c == ' ' || c == '#' || c == '0'

def PlaceFlags.ofChars (cs : List Char) : PlaceFlags :=
  ⟨cs.contains '-', cs.contains '+', cs.contains ' ', cs.contains '#', cs.contains '0'⟩

def digitsValue (cs : List Char) : Nat :=
  cs.foldl (fun n c => 10 * n + (c.toNat - 48)) 0

def readWidth : List Char → PlaceSize × List Char
  | '*' :: cs => (.taken, cs)
  | cs =>
    let ds := cs.takeWhile Char.isDigit
    (if ds.isEmpty then .absent else .written (digitsValue ds), cs.dropWhile Char.isDigit)

/-- A point alone is the precision zero. -/
def readPrecision : List Char → PlaceSize × List Char
  | '.' :: '*' :: cs => (.taken, cs)
  | '.' :: cs => (.written (digitsValue (cs.takeWhile Char.isDigit)), cs.dropWhile Char.isDigit)
  | cs => (.absent, cs)

/-- Skips one size letter. -/
def skipSizeLetter : List Char → List Char
  | 'h' :: cs | 'l' :: cs | 'L' :: cs => cs
  | cs => cs

/-- The place after a percent sign, and what follows it. -/
def readPlace (cs : List Char) : Place × List Char :=
  let key := readKey cs
  let flags := key.2.takeWhile isFlag
  let width := readWidth (key.2.dropWhile isFlag)
  let precision := readPrecision width.2
  let rest := skipSizeLetter precision.2
  (⟨key.1, .ofChars flags, width.1, precision.1, rest.head?⟩, rest.tail)

/-! ## Reading shortens the text -/

theorem length_dropWhile_le (p : Char → Bool) (cs : List Char) : (cs.dropWhile p).length ≤ cs.length :=
  (List.dropWhile_sublist p).length_le

theorem length_closeKey?_le {depth : Nat} {cs : List Char} {r : List Char × List Char}
    (h : closeKey? depth cs = some r) : r.2.length ≤ cs.length := by
  induction cs generalizing depth r with
  | nil => simp [closeKey?] at h
  | cons c cs ih =>
    rw [closeKey?] at h
    split at h
    · simp only [Option.some.injEq] at h
      subst h
      exact Nat.le_succ _
    · obtain ⟨u, hu, rfl⟩ := Option.map_eq_some_iff.1 h
      have shorter : u.2.length ≤ cs.length := ih hu
      exact Nat.le_succ_of_le shorter

/-- Reading a key leaves no more than there was. -/
theorem length_readKey_le (cs : List Char) : (readKey cs).2.length ≤ cs.length := by
  unfold readKey
  split
  · rename_i cs
    split
    · rename_i key rest h
      exact Nat.le_succ_of_le (length_closeKey?_le h)
    · exact Nat.zero_le _
  · exact Nat.le_refl _

/-- Reading a width leaves no more than there was. -/
theorem length_readWidth_le (cs : List Char) : (readWidth cs).2.length ≤ cs.length := by
  unfold readWidth
  split
  · exact Nat.le_succ _
  · exact length_dropWhile_le _ _

/-- Reading a precision leaves no more than there was. -/
theorem length_readPrecision_le (cs : List Char) : (readPrecision cs).2.length ≤ cs.length := by
  unfold readPrecision
  split
  · simp only [List.length_cons]; omega
  · exact Nat.le_succ_of_le (length_dropWhile_le _ _)
  · exact Nat.le_refl _

theorem length_skipSizeLetter_le (cs : List Char) : (skipSizeLetter cs).length ≤ cs.length := by
  unfold skipSizeLetter
  split <;> simp

/-- Reading a place of a format leaves no more than there was, so that formatting ends. -/
theorem length_readPlace_le (cs : List Char) : (readPlace cs).2.length ≤ cs.length := by
  have key := length_readKey_le cs
  have flags := length_dropWhile_le isFlag (readKey cs).2
  have width := length_readWidth_le ((readKey cs).2.dropWhile isFlag)
  have precision := length_readPrecision_le (readWidth ((readKey cs).2.dropWhile isFlag)).2
  have size := length_skipSizeLetter_le
    (readPrecision (readWidth ((readKey cs).2.dropWhile isFlag)).2).2
  simp only [readPlace, List.length_tail]
  omega

/-! ## Pieces of a message -/

inductive Piece where
  | plain (c : Char)
  /-- a place, and how many characters of the message stand before its last one -/
  | place (p : Place) (position : Nat)
deriving Repr, BEq, DecidableEq

/-- The pieces of a text, the end of a message of `total` characters. -/
def piecesOf (total : Nat) : List Char → List Piece
  | [] => []
  | '%' :: '%' :: cs => .plain '%' :: piecesOf total cs
  | c :: cs =>
    if c == '%' then
      let r := readPlace cs
      .place r.1 (total - r.2.length - 1) :: piecesOf total r.2
    else .plain c :: piecesOf total cs
termination_by cs => cs.length
decreasing_by
  · simp only [List.length_cons]; omega
  · exact Nat.lt_succ_of_le (length_readPlace_le cs)
  · exact Nat.lt_succ_self _

def pieces (message : String) : List Piece :=
  piecesOf message.length message.toList

end SpringAtlas
