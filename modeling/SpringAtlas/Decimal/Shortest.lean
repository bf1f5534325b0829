import SpringAtlas.Decimal.Double

/-!
# `Decimal.Shortest` — the shortest digits of a double

A double is written with the fewest digits that read back to it; of several such numbers the nearest one is
taken. The rounding interval of a double holds the numbers nearest to it, its ends included when the mantissa
is even. For one digit, two digits and so on, the two neighbours of the value on that decimal grid are tried.

## Contents
* `Decimal` — digits and a power of ten
* `shortest` — the shortest digits of a double
* `DoubleStyle`, `Decimal.write`, `Double.write` — where positional notation ends and how exponents look
* `Double.roundPlaces` — a double rounded to a number of decimal places
* `Double.ofDecimal`, `Double.ofRatioInt` — reading
-/

namespace SpringAtlas

/-- `coefficient * 10 ^ exponent`. -/
structure Decimal where
  coefficient : Nat
  exponent : Int
deriving Repr, BEq, DecidableEq

namespace Decimal

/-- The decimal as a ratio. -/
def ratio (d : Decimal) : Nat × Nat :=
  if 0 ≤ d.exponent then (d.coefficient * Nat.pow 10 d.exponent.toNat, 1)
  else (d.coefficient, Nat.pow 10 (-d.exponent).toNat)

/-- Trailing zeros of the coefficient moved into the exponent; `fuel` bounds their number. -/
def normalize : Nat → Decimal → Decimal
  | 0, d => d
  | fuel + 1, d =>
    if d.coefficient ≠ 0 && d.coefficient % 10 = 0 then normalize fuel ⟨d.coefficient / 10, d.exponent + 1⟩
    else d

def digits (d : Decimal) : List Char :=
  Nat.toDigits 10 d.coefficient

end Decimal

/-! ## Shortest digits -/

/-- Comparison of the ratios `a` and `b`. -/
def ratioLe (a b : Nat × Nat) : Bool :=
  a.1 * b.2 ≤ b.1 * a.2

/-- The ends of the rounding interval of `m * 2 ^ e`, as ratios. -/
def roundingInterval (m : Nat) (e : Int) : (Nat × Nat) × (Nat × Nat) :=
  let below := if m = Double.leastMantissa && Double.leastExponent < e then 4 * m - 1 else 4 * m - 2
  (Double.scaled below 1 (e - 2), Double.scaled (4 * m + 2) 1 (e - 2))

/-- Whether a decimal reads back as `m * 2 ^ e`. -/
def readsBack (m : Nat) (e : Int) (d : Decimal) : Bool :=
  let interval := roundingInterval m e
  if m % 2 = 0 then ratioLe interval.1 d.ratio && ratioLe d.ratio interval.2
  else !ratioLe d.ratio interval.1 && !ratioLe interval.2 d.ratio

/-- The number of digits before the point of a positive ratio; zero or negative below one tenth. -/
def magnitudeOf (num den : Nat) : Int :=
  let guess : Int := (Nat.toDigits 10 num).length - (Nat.toDigits 10 den).length
  let power := (Decimal.mk 1 guess).ratio
  if ratioLe power (num, den) then guess + 1 else guess

/-- The nearer of the value's two neighbours with the last digit at `10 ^ e`, of those that read back. -/
def neighbour? (m : Nat) (q : Int) (e : Int) : Option Decimal :=
  let v := Double.magnitude m q
  let unit := (Decimal.mk 1 e).ratio
  let num := v.1 * unit.2
  let den := v.2 * unit.1
  let low : Decimal := ⟨num / den, e⟩
  let high : Decimal := ⟨num / den + 1, e⟩
  match readsBack m q low, readsBack m q high with
  | true, true => if 2 * (num % den) ≤ den then some low else some high
  | true, false => some low
  | false, true => some high
  | false, false => none

/-- The shortest digits of the positive double `m * 2 ^ q`; 17 digits always read back. -/
def shortest (m : Nat) (q : Int) : Decimal :=
  let v := Double.magnitude m q
  let top := magnitudeOf v.1 v.2
  let found := (List.range 17).findSome? fun (n : Nat) => neighbour? m q (top - (n + 1))
  (found.getD ⟨0, 0⟩).normalize 400

/-! ## Notation -/

/-- How doubles are written. -/
structure DoubleStyle where
  /-- exponents of the first digit that are written without a power of ten -/
  leastPositional : Int
  greatestPositional : Int
  /-- fewest digits of an exponent -/
  exponentWidth : Nat

/-- Positional from one ten-thousandth up to `10 ^ 16`, a whole number with `.0`; exponents have a sign and
    two digits. -/
def DoubleStyle.standard : DoubleStyle := ⟨-4, 15, 2⟩

def zeros (n : Nat) : List Char :=
  List.replicate n '0'

/-- Digits with the point after the first `point` of them, zeros filled in on either side. -/
def positional (digits : List Char) (point : Int) : List Char :=
  if point ≤ 0 then '0' :: '.' :: (zeros (-point).toNat ++ digits)
  else if digits.length ≤ point.toNat then digits ++ zeros (point.toNat - digits.length) ++ ['.', '0']
  else digits.take point.toNat ++ '.' :: digits.drop point.toNat

def writeExponent (width : Nat) (e : Int) : List Char :=
  let ds := Nat.toDigits 10 e.natAbs
  'e' :: (if e < 0 then '-' else '+') :: (zeros (width - ds.length) ++ ds)

/-- A decimal in a notation. -/
def Decimal.write (style : DoubleStyle) (d : Decimal) : List Char :=
  let ds := d.digits
  let lead : Int := ds.length + d.exponent - 1
  if style.leastPositional ≤ lead && lead ≤ style.greatestPositional then positional ds (lead + 1)
  else
    let mantissa := match ds with
      | [] => []
      | [c] => [c]
      | c :: cs => c :: '.' :: cs
    mantissa ++ writeExponent style.exponentWidth lead

namespace Double

/-- A double as text. -/
def write : Double → String
  | nan => "nan"
  | infinite false => "inf"
  | infinite true => "-inf"
  | finite s m e =>
    let digits := if m = 0 then "0.0".toList else (shortest m e).write .standard
    String.ofList (if s then '-' :: digits else digits)

/-! ## Reading and rounding -/

/-- The double nearest to a decimal. -/
def ofDecimal (negative : Bool) (d : Decimal) : Double :=
  ofRatio negative d.ratio.1 d.ratio.2

/-- The double nearest to `num / den`; the sign of a zero follows the divisor. -/
def ofRatioInt (num den : Int) : Double :=
  ofRatio (decide (num < 0) != decide (den < 0)) num.natAbs den.natAbs

/-- The shortest digits of a double, rounded half up to `places` decimal places, as a double. -/
def roundPlaces (places : Nat) : Double → Double
  | finite s m e =>
    if m = 0 then finite s m e
    else
      let r := (shortest m e).ratio
      ofDecimal s ⟨roundHalfUp (r.1 * Nat.pow 10 places) r.2, -places⟩
  | x => x

end Double

end SpringAtlas
