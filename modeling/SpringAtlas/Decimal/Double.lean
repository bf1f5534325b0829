/-!
# `Decimal.Double` — double-precision numbers

A double is a whole number of at most 53 bits times a power of two, with a sign, or an infinity, or not a
number. Numbers enter as exact ratios and are rounded to the nearest double, a tie going to the even mantissa.

## Contents
* `Double`, `Double.ofRatio` — the nearest double of a ratio
* `Double.neg`, `Double.add`, `Double.mul` — arithmetic, exact and then rounded
* `Double.equalsInt` — comparison with a whole number
-/

namespace SpringAtlas

/-- A number with 53 bits of precision. A finite one is `mantissa * 2 ^ exponent`; the mantissa has 53 bits
    unless the exponent is the least one. -/
inductive Double where
  | finite (negative : Bool) (mantissa : Nat) (exponent : Int)
  | infinite (negative : Bool)
  | nan
deriving Repr, BEq, DecidableEq, Inhabited

/-- `num / den` rounded to the nearest whole number, a tie to the even one. -/
def roundHalfEven (num den : Nat) : Nat :=
  let q := num / den
  let twice := 2 * (num % den)
  if twice < den then q else if den < twice then q + 1 else if q % 2 = 0 then q else q + 1

/-- `num / den` rounded to the nearest whole number, a tie away from zero. -/
def roundHalfUp (num den : Nat) : Nat :=
  (2 * num + den) / (2 * den)

namespace Double

/-- The exponent of a double with mantissa below `2 ^ 53` is never less. -/
def leastExponent : Int := -1074

/-- The largest exponent of a finite double. -/
def greatestExponent : Int := 971

/-- The least mantissa of 53 bits. -/
def leastMantissa : Nat := Nat.pow 2 52

/-- The ratio `num / den * 2 ^ e` as a ratio of whole numbers. -/
def scaled (num den : Nat) (e : Int) : Nat × Nat :=
  if 0 ≤ e then (num * Nat.pow 2 e.toNat, den) else (num, den * Nat.pow 2 (-e).toNat)

/-- The exponent at which a positive ratio has a mantissa of 53 bits, or the least exponent. -/
def ratioExponent (num den : Nat) : Int :=
  let guess : Int := (num.log2 : Int) - den.log2 - 52
  let r := scaled num den (-guess)
  max leastExponent (if r.1 < r.2 * leastMantissa then guess - 1 else guess)

/-- The double nearest to `num / den`, where `den` is positive. -/
def ofRatio (negative : Bool) (num den : Nat) : Double :=
  if num = 0 then finite negative 0 leastExponent
  else
    let e := ratioExponent num den
    let r := scaled num den (-e)
    let m := roundHalfEven r.1 r.2
    let (m, e) := if m = 2 * leastMantissa then (leastMantissa, e + 1) else (m, e)
    if greatestExponent < e then infinite negative else finite negative m e

/-- The double nearest to a whole number. -/
def ofNat (n : Nat) : Double :=
  ofRatio false n 1

def neg : Double → Double
  | finite s m e => finite (!s) m e
  | infinite s => infinite (!s)
  | nan => nan

/-- The magnitude of a finite double as a ratio. -/
def magnitude (mantissa : Nat) (exponent : Int) : Nat × Nat :=
  scaled mantissa 1 exponent

/-- The sum, exact and then rounded; a sum of opposite numbers is positive zero. -/
def add : Double → Double → Double
  | nan, _ => nan
  | _, nan => nan
  | infinite s, infinite t => if s = t then infinite s else nan
  | infinite s, _ => infinite s
  | _, infinite s => infinite s
  | finite s m e, finite t n f =>
    let a := magnitude m e
    let b := magnitude n f
    let x := a.1 * b.2
    let y := b.1 * a.2
    if s = t then ofRatio s (x + y) (a.2 * b.2)
    else if y < x then ofRatio s (x - y) (a.2 * b.2)
    else if x < y then ofRatio t (y - x) (a.2 * b.2)
    else ofRatio false 0 1

/-- The product, exact and then rounded. -/
def mul : Double → Double → Double
  | nan, _ => nan
  | _, nan => nan
  | infinite s, infinite t => infinite (s != t)
  | infinite s, finite t n _ => if n = 0 then nan else infinite (s != t)
  | finite s m _, infinite t => if m = 0 then nan else infinite (s != t)
  | finite s m e, finite t n f =>
    let a := magnitude m e
    let b := magnitude n f
    ofRatio (s != t) (a.1 * b.1) (a.2 * b.2)

/-- Whether the double is exactly the whole number `n`. -/
def equalsInt (x : Double) (n : Int) : Bool :=
  match x with
  | finite s m e =>
    let a := magnitude m e
    a.1 == n.natAbs * a.2 && (m == 0 || s == decide (n < 0))
  | _ => false

/-- Whether two doubles are the same number: zeros of both signs are, and nothing equals `nan`. -/
def equals : Double → Double → Bool
  | finite s m e, finite t n f => (m == 0 && n == 0) || (s == t && m == n && e == f)
  | infinite s, infinite t => s == t
  | _, _ => false

end Double

end SpringAtlas
