import SpringAtlas.Decimal.Shortest

/-!
# `Decimal.Fixed` — doubles with a given number of digits

A double can be written with a number of places after the point, with a number of digits and a power of ten, or
in the shorter of the two ways. Its exact value is rounded, a tie going to the even digit.

## Contents
* `Figures`, `figures` — the leading digits of a ratio
* `FloatForm`, `FloatForm.write` — the three written forms
-/

namespace SpringAtlas

/-- Digits of a number; the first one counts for `10 ^ lead`. -/
structure Figures where
  digits : List Char
  lead : Int
deriving Repr, BEq, DecidableEq

/-- The first `count` digits of a ratio, where `count` is positive. -/
def figures (count : Nat) (num den : Nat) : Figures :=
  if num = 0 then ⟨zeros count, 0⟩
  else
    let lead := magnitudeOf num den - 1
    let unit := (Decimal.mk 1 (lead + 1 - count)).ratio
    let ds := Nat.toDigits 10 (roundHalfEven (num * unit.2) (den * unit.1))
    if count < ds.length then ⟨ds.take count, lead + 1⟩ else ⟨ds, lead⟩

/-- Digits without the zeros at their end; one digit always stays. -/
def dropFinalZeros (ds : List Char) : List Char :=
  match (ds.reverse.dropWhile (· == '0')).reverse with
  | [] => ds.take 1
  | kept => kept

/-- A whole part and what follows the point. A point with nothing after it is written if `always` holds. -/
def withPoint (always : Bool) (whole fraction : List Char) : List Char :=
  if fraction.isEmpty && !always then whole else whole ++ '.' :: fraction

namespace Figures

/-- Without a power of ten. -/
def writePositional (always : Bool) (f : Figures) : List Char :=
  if f.lead < 0 then withPoint always ['0'] (zeros (-f.lead - 1).toNat ++ f.digits)
  else
    let n := f.lead.toNat + 1
    withPoint always (f.digits.take n ++ zeros (n - f.digits.length)) (f.digits.drop n)

/-- With a power of ten. -/
def writeScientific (always : Bool) (f : Figures) : List Char :=
  withPoint always (f.digits.take 1) (f.digits.drop 1) ++ writeExponent 2 f.lead

end Figures

/-- A written form of doubles. -/
inductive FloatForm where
  /-- a number of places after the point -/
  | fixed
  /-- a number of places after the first digit, and a power of ten -/
  | scientific
  /-- a number of digits; with a power of ten where that is shorter -/
  | general
deriving Repr, BEq, DecidableEq

/-- A ratio in a form. The full form keeps a point and zeros that stand at the end. -/
def FloatForm.writeRatio (form : FloatForm) (full : Bool) (places : Nat) (num den : Nat) : List Char :=
  match form with
  | fixed =>
    let ds := Nat.toDigits 10 (roundHalfEven (num * Nat.pow 10 places) den)
    let ds := zeros (places + 1 - ds.length) ++ ds
    withPoint full (ds.take (ds.length - places)) (ds.drop (ds.length - places))
  | scientific => (figures (places + 1) num den).writeScientific full
  | general =>
    let count := max places 1
    let f := figures count num den
    let kept := if full then f else ⟨dropFinalZeros f.digits, f.lead⟩
    if -4 ≤ f.lead && f.lead < count then kept.writePositional full else kept.writeScientific full

/-- A double in a form. -/
def FloatForm.write (form : FloatForm) (full : Bool) (places : Nat) : Double → List Char
  | .nan => "nan".toList
  | .infinite negative => if negative then "-inf".toList else "inf".toList
  | .finite negative m e =>
    let r := Double.magnitude m e
    let digits := form.writeRatio full places r.1 r.2
    if negative then '-' :: digits else digits

end SpringAtlas
