import SpringAtlas.Calendar
import SpringAtlas.Text.Letter
import SpringAtlas.Text.Quoted

/-!
# `Calendar.Iso` — times in ISO 8601

Times are read in the basic and the extended form and with week dates; any character may stand between date and
time of day. A text is read by its bytes in UTF-8, and a NUL ends a time of day as the end of the text does.

## Contents
* `IsoError` — why a text gives no time
* `parseDate?`, `parseClock?`, `parseTime?` — the parts
* `Timestamp.parseIso` — the time that a text writes
-/

namespace SpringAtlas

/-- Why a text gives no time. -/
inductive IsoError where
  | notIso (text : String)
  | calendar (cause : CalendarError)
deriving Repr, BEq, DecidableEq

def IsoError.message : IsoError → String
  | notIso text => "Invalid isoformat string: " ++ Text.quoted text
  | calendar cause => cause.message

namespace Iso

/-- The bytes of a text in UTF-8, each as the character with its number. -/
def bytes (s : String) : List Char :=
  s.toUTF8.toList.map fun b => Char.ofNat b.toNat

/-- Whether nothing follows: the end of the text, or a NUL. -/
def isOver (cs : List Char) : Bool :=
  cs.isEmpty || cs.head? == some (Char.ofNat 0)

/-! ## Dates -/

/-- The number that the first `n` characters write, if they are ASCII digits, and the rest. -/
def digits? (n : Nat) (cs : List Char) : Option (Nat × List Char) :=
  let ds := cs.take n
  if ds.length = n && ds.all Text.isAsciiDigit then
    some (ds.foldl (fun v c => 10 * v + (c.toNat - 48)) 0, cs.drop n)
  else none

/-- The number of characters that the date part takes. Dates come as `YYYY-MM-DD`, `YYYYMMDD`, and in weeks as
    `YYYY-Www[-D]` and `YYYYWww[D]`. -/
def dateLength? (cs : List Char) : Option Nat :=
  let n := cs.length
  let at? (i : Nat) : Char := cs[i]?.getD ' '
  if n = 7 then some 7
  else if at? 4 == '-' then
    if at? 5 == 'W' then
      if n > 8 && at? 8 == '-' then
        if n = 9 then none
        else if n > 10 && Text.isAsciiDigit (at? 10) then some 8 else some 10
      else some 8
    else some 10
  else if at? 4 == 'W' then
    let pos := 7 + ((cs.drop 7).takeWhile Text.isAsciiDigit).length
    if pos < 9 then some pos else if pos % 2 = 0 then some 7 else some 8
  else some 8

/-- A date in one of the forms that `dateLength?` tells apart. -/
def parseDate? (cs : List Char) : Option Date := do
  let (year, r) ← digits? 4 cs
  let dashed := r.head? == some '-'
  let r := if dashed then r.tail else r
  if r.head? == some 'W' then
    let (week, r) ← digits? 2 r.tail
    if r.isEmpty then Date.ofWeek? year week 1
    else
      let r ← if dashed then (if r.head? == some '-' then some r.tail else none) else some r
      let (day, _) ← digits? 1 r
      Date.ofWeek? year week day
  else
    let (month, r) ← digits? 2 r
    let r ← if dashed then (if r.head? == some '-' then some r.tail else none) else some r
    let (day, r) ← digits? 2 r
    if r.isEmpty then some ⟨year, month, day⟩ else none

/-! ## Times of day -/

/-- A time of day as read: its fields, its microseconds, and whether the text ended there. -/
structure Clock where
  fields : List Nat
  micro : Nat
  complete : Bool

namespace Clock

def hour (c : Clock) : Nat := c.fields[0]?.getD 0
def minute (c : Clock) : Nat := c.fields[1]?.getD 0
def second (c : Clock) : Nat := c.fields[2]?.getD 0

end Clock

/-- Digits of a fraction as microseconds; what follows the sixth digit is dropped. -/
def parseFraction? (fields : List Nat) (cs : List Char) : Option Clock := do
  let n := min 6 cs.length
  if n = 0 then none
  else
    let (v, r) ← digits? n cs
    some ⟨fields, v * Nat.pow 10 (6 - n), isOver (r.dropWhile Text.isAsciiDigit)⟩

/-- A time of day `HH[:MM[:SS[.f]]]` or without colons; at most `left` fields are still to come. `fields` are
    those read so far, `colons` tells whether they are separated. A single character at the end is left over. -/
def parseClock? : Nat → Bool → List Nat → List Char → Option Clock
  | 0, _, fields, cs => parseFraction? fields cs
  | left + 1, colons, fields, cs => do
    let (v, r) ← digits? 2 cs
    let fields := fields ++ [v]
    match r with
    | [] => some ⟨fields, 0, true⟩
    | [c] => some ⟨fields, 0, isOver [c]⟩
    | c :: rest =>
      let colons := if fields.length = 1 then c == ':' else colons
      if colons && c == ':' then parseClock? left colons fields rest
      else if c == '.' || c == ',' then parseFraction? fields rest
      else if !colons then parseClock? left colons fields r
      else none

/-- An offset in microseconds. One of less than a second counts as none. -/
def parseOffset? (negative : Bool) (cs : List Char) : Option Int := do
  let c ← parseClock? 3 true [] cs
  if !c.complete then none
  else
    let seconds := c.hour * 3600 + c.minute * 60 + c.second
    let o : Int := if seconds = 0 then 0 else (seconds * 1000000 + c.micro : Nat)
    some (if negative then -o else o)

/-- A time of day and what is known of its offset. Only in front of an offset may the time of day be followed
    by something else. -/
def parseTime? (cs : List Char) : Option (Clock × Option Int) := do
  let text := cs.takeWhile fun c => !(c == '+' || c == '-' || c == 'Z')
  let clock ← parseClock? 3 true [] text
  match cs.drop text.length with
  | [] => if clock.complete then some (clock, none) else none
  | 'Z' :: rest => if isOver rest then some (clock, some 0) else none
  | sign :: rest => (parseOffset? (sign == '-') rest).map fun o => (clock, some o)

/-- The number of bytes of a character that starts with a byte. -/
def charSize (first : Char) : Nat :=
  if first.toNat < 0x80 then 1
  else if first.toNat / 16 = 0xE then 3
  else if first.toNat / 16 = 0xF then 4
  else 2

/-- The fields of a time, which may not exist. -/
def parseFields? (cs : List Char) : Option Timestamp := do
  if cs.length < 7 then none
  let n ← dateLength? cs
  let date ← parseDate? (cs.take n)
  match cs.drop n with
  | [] => some { date }
  | separator :: rest =>
    let (c, offset) ← parseTime? ((separator :: rest).drop (charSize separator))
    some { date, hour := c.hour, minute := c.minute, second := c.second, micro := c.micro, offset }

end Iso

/-- The time that an ISO 8601 text writes. -/
def Timestamp.parseIso (s : String) : Except IsoError Timestamp :=
  match Iso.parseFields? (Iso.bytes s) with
  | none => .error (.notIso s)
  | some t => t.check.mapError .calendar

end SpringAtlas
