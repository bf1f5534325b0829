import SpringAtlas.Text.Case
import SpringAtlas.Text.Search
import SpringAtlas.Yaml.Scalar
import SpringAtlas.Yaml.Tag

/-!
# `Yaml.Literal` — what scalars write

Numbers may hold underscores and be written to base two, eight, sixteen or sixty. Times are dates with or without a
time of day. Bytes are written to base sixty-four.

## Contents
* `readInteger`, `readFloat` — numbers
* `readTime` — dates and times
* `bytesFrom` — bytes
-/

namespace SpringAtlas.Yaml

/-! ## Numbers -/

/-- The value of a digit to a base. -/
def digitIn? (base : Nat) (c : Char) : Option Nat :=
  let value? := if Text.isDigit c then some (Text.digitValue c) else hexDigit? c
  value?.filter (· < base)

/-- The number that digits write to a base; there is at least one digit. -/
def digitsIn? (base : Nat) (cs : List Char) : Option Nat :=
  if cs.isEmpty then none else cs.foldlM (fun n c => (digitIn? base c).map (base * n + ·)) 0

/-- A sign, if there is one: whether it is a minus, and the rest. -/
def splitSign (cs : List Char) : Bool × List Char :=
  match cs with
  | '-' :: rest => (true, rest)
  | '+' :: rest => (false, rest)
  | _ => (false, cs)

/-- Digits after the mark of their base, if they have one. -/
def dropBaseMark (base : Nat) (cs : List Char) : List Char :=
  let marks := if base = 16 then "xX" else if base = 8 then "oO" else if base = 2 then "bB" else ""
  match cs with
  | '0' :: c :: rest => if marks.toList.contains c then rest else cs
  | _ => cs

/-- The blanks that may stand around a number: all but the separators of ASCII. -/
def isNumberBlank (c : Char) : Bool :=
  Text.isBlank c && !(28 ≤ c.toNat && c.toNat < 32)

/-- A text without the blanks around it. -/
def trimNumber (cs : List Char) : List Char :=
  Text.trimWhere isNumberBlank cs

/-- A whole number to a base. Only bases that are powers of two allow any number of digits. -/
def integerIn (base : Nat) (cs : List Char) : Except Fault Int :=
  let (negative, rest) := splitSign (trimNumber cs)
  let digits := dropBaseMark base rest
  let count := (digits.takeWhile fun c => (digitIn? base c).isSome).length
  if base = 10 && Value.digitLimit < count then .error (.longInteger count)
  else match digitsIn? base digits with
    | some n => .ok (if negative then -(n : Int) else n)
    | none => .error (.badInteger base (String.ofList cs))

/-- Numbers of base sixty, most significant first. -/
def fromSixties (parts : List Int) : Int :=
  parts.foldl (fun n d => n * 60 + d) 0

/-- A whole number in one of the spellings of YAML. -/
def readInteger (text : List Char) : Except Fault Int := do
  let cs := text.filter (· != '_')
  if cs.isEmpty then throw .emptyNumber
  let (negative, rest) := splitSign cs
  let n ←
    if rest == ['0'] then pure 0
    else if rest.take 2 == ['0', 'b'] then integerIn 2 (rest.drop 2)
    else if rest.take 2 == ['0', 'x'] then integerIn 16 (rest.drop 2)
    else if rest.isEmpty then throw .emptyNumber
    else if rest.head? == some '0' then integerIn 8 rest
    else if rest.contains ':' then do
      pure (fromSixties (← (Text.splitWhere (· == ':') rest).mapM (integerIn 10)))
    else integerIn 10 rest
  return if negative then -n else n

/-- A number with an optional fraction and an optional power of ten. -/
def decimal? (cs : List Char) : Option Decimal := do
  let whole := cs.takeWhile Text.isDigit
  let rest := cs.drop whole.length
  let (fraction, rest) := match rest with
    | '.' :: r => (r.takeWhile Text.isDigit, r.dropWhile Text.isDigit)
    | _ => ([], rest)
  let coefficient ← digitsIn? 10 (whole ++ fraction)
  let power : Int ← match rest with
    | [] => some 0
    | c :: r =>
      if c == 'e' || c == 'E' then
        let (negative, ds) := splitSign r
        (digitsIn? 10 ds).map fun n => if negative then -(n : Int) else n
      else none
  some ⟨coefficient, power - fraction.length⟩

/-- A decimal number; powers of ten beyond every double are cut off. -/
def doubleOf (negative : Bool) (d : Decimal) : Double :=
  let lead : Int := d.digits.length + d.exponent
  if d.coefficient = 0 || lead < -400 then .finite negative 0 Double.leastExponent
  else if 400 < lead then .infinite negative
  else .ofDecimal negative d

/-- A number with a fraction, in plain decimal writing. -/
def floatIn (cs : List Char) : Except Fault Double :=
  let (negative, rest) := splitSign (trimNumber cs)
  let word := String.ofList (Text.lower rest)
  if word == "inf" || word == "infinity" then .ok (.infinite negative)
  else if word == "nan" then .ok .nan
  else match decimal? rest with
    | some d => .ok (doubleOf negative d)
    | none => .error (.badFloat (String.ofList cs))

/-- A sum of parts with weights of sixty, least significant first; a weight has to be finite. -/
def sumSixties : List Double → Nat → Double → Except Fault Double
  | [], _, total => .ok total
  | d :: ds, weight, total =>
    match Double.ofNat weight with
    | .infinite _ => .error .tooManySixties
    | w => sumSixties ds (weight * 60) (total.add (d.mul w))

/-- The text of a number with a fraction, in small letters and without underscores. -/
def floatText (text : List Char) : List Char :=
  Text.lower (text.filter (· != '_'))

/-- Whether a text is the literal of the value that is not a number. -/
def isNanLiteral (text : List Char) : Bool :=
  (splitSign (floatText text)).2 == ".nan".toList

/-- A number with a fraction in one of the spellings of YAML. -/
def readFloat (text : List Char) : Except Fault Double := do
  let cs := floatText text
  if cs.isEmpty then throw .emptyNumber
  let (negative, rest) := splitSign cs
  let x ←
    if rest == ".inf".toList then pure (Double.infinite false)
    else if rest == ".nan".toList then pure Double.nan
    else if rest.contains ':' then do
      let parts ← (Text.splitWhere (· == ':') rest).mapM floatIn
      sumSixties parts.reverse 1 (.ofNat 0)
    else floatIn rest
  return if negative then x.neg else x

/-! ## Times -/

open Pattern in
/-- A time with its fields in groups. -/
def timeFields : Pattern :=
  group 1 (times 4 digit) ++ lit "-" ++ group 2 (digit ++ opt digit) ++ lit "-" ++
  group 3 (digit ++ opt digit) ++
  opt ((among "Tt" <|> plus (among " \t")) ++ group 4 (digit ++ opt digit) ++ lit ":" ++
    group 5 (times 2 digit) ++ lit ":" ++ group 6 (times 2 digit) ++ opt (lit "." ++ group 7 (star digit)) ++
    opt (star (among " \t") ++
      group 8 (lit "Z" <|>
        group 9 (among "-+") ++ group 10 (digit ++ opt digit) ++ opt (lit ":" ++ group 11 (times 2 digit))))) ++
  lastLineEnd

/-- A date, or a date with a time of day. -/
def readTime (text : List Char) : Except Fault Value := do
  match timeFields.matchStart? text with
  | none => throw .notATime
  | some m =>
    let number (i : Nat) : Nat := (digitsIn? 10 (m.group text i)).getD 0
    let date : Date := ⟨number 1, number 2, number 3⟩
    if (m.group text 4).isEmpty then
      return .date (← date.check.mapError .badDate)
    let fraction := (m.group text 7).take 6
    let offset : Option Int :=
      match m.group? text 9 with
      | some mark =>
        let o : Int := (number 10 * 60 + number 11) * 60000000
        some (if mark == ['-'] then -o else o)
      | none => (m.group? text 8).map fun _ => 0
    let t : Timestamp :=
      { date, hour := number 4, minute := number 5, second := number 6
        micro := ((digitsIn? 10 fraction).getD 0) * Nat.pow 10 (6 - fraction.length), offset }
    return .time (← t.check.mapError .badDate)

/-! ## Bytes -/

/-- The value of a character of base sixty-four. -/
def sextet? (c : Char) : Option Nat :=
  let n := c.toNat
  if 65 ≤ n && n ≤ 90 then some (n - 65)
  else if 97 ≤ n && n ≤ 122 then some (n - 71)
  else if 48 ≤ n && n ≤ 57 then some (n + 4)
  else if c == '+' then some 62
  else if c == '/' then some 63
  else none

/-- Bytes from base sixty-four. `group` holds up to three values already read, `pads` counts the padding seen
    since; characters of no meaning are skipped, and complete padding ends the text. -/
def bytesFrom : List Char → List Nat → Nat → Option (List Nat)
  | [], group, _ => if group.isEmpty then some [] else none
  | c :: cs, group, pads =>
    if c == '=' then
      if 2 ≤ group.length && 4 ≤ group.length + pads + 1 then
        match group with
        | [a, b] => some [(a * 4 + b / 16) % 256]
        | [a, b, d] => some [(a * 4 + b / 16) % 256, (b * 16 + d / 4) % 256]
        | _ => some []
      else bytesFrom cs group (if 2 ≤ group.length then pads + 1 else pads)
    else match sextet? c with
      | none => bytesFrom cs group pads
      | some v =>
        match group with
        | [a, b, d] =>
          (bytesFrom cs [] 0).map
            ([(a * 4 + b / 16) % 256, (b * 16 + d / 4) % 256, (d * 64 + v) % 256] ++ ·)
        | _ => bytesFrom cs (group ++ [v]) 0

end SpringAtlas.Yaml
