import Mathlib.Algebra.Order.Field.Power
import Mathlib.Data.Nat.Cast.Order.Field
import Mathlib.Data.Rat.Cast.Order
import Mathlib.Tactic.FieldSimp
import Mathlib.Tactic.Linarith
import Mathlib.Tactic.NormNum
import Mathlib.Tactic.Positivity
import Mathlib.Tactic.Ring
import SpringAtlas.Decimal.Shortest

/-!
# `Proofs.Decimal.Size` — how large rounded numbers get

Rounding moves a number, but not far: the double nearest to a ratio is at most twice the ratio, and the shortest digits
of a double write at most twice the double. Neither bound is sharp. They are enough to say that ratios well inside the
range of doubles are rounded to a finite double with few digits before the point.

## Contents
* `ratioValue` — ratios as rational numbers
* `ofRatio_finite` — the double of a ratio, and its size
* `shortest_le` — the size of the shortest digits
-/

namespace SpringAtlas

/-- The number that a ratio stands for. -/
def ratioValue (r : Nat × Nat) : ℚ :=
  r.1 / r.2

/-- The number that a decimal stands for. -/
def Decimal.value (d : Decimal) : ℚ :=
  d.coefficient * 10 ^ d.exponent

theorem scaled_value (num den : Nat) (e : Int) : ratioValue (Double.scaled num den e) = num / den * 2 ^ e := by
  unfold Double.scaled ratioValue
  split
  · next h =>
    obtain ⟨k, rfl⟩ := Int.eq_ofNat_of_zero_le h
    simp [Nat.pow_eq, mul_div_right_comm]
  · next h =>
    obtain ⟨k, hk⟩ := Int.eq_ofNat_of_zero_le (by omega : 0 ≤ -e)
    obtain rfl : e = -(k : Int) := by omega
    simp only [Nat.pow_eq, neg_neg, Int.toNat_natCast, Nat.cast_mul, Nat.cast_pow, Nat.cast_ofNat, zpow_neg, zpow_natCast]
    rw [← div_div, div_eq_mul_inv]

theorem scaled_den_pos (num : Nat) {den : Nat} (hden : 0 < den) (e : Int) : 0 < (Double.scaled num den e).2 := by
  unfold Double.scaled
  split
  · exact hden
  · exact Nat.mul_pos hden (Nat.pow_pos (by decide))

theorem scaled_num_pos {num : Nat} (hnum : 0 < num) (den : Nat) (e : Int) : 0 < (Double.scaled num den e).1 := by
  unfold Double.scaled
  split
  · exact Nat.mul_pos hnum (Nat.pow_pos (by decide))
  · exact hnum

/-- A decimal and its fraction are the same number. -/
theorem ratio_value (d : Decimal) : ratioValue d.ratio = d.value := by
  unfold Decimal.ratio ratioValue Decimal.value
  split
  · next h =>
    obtain ⟨k, hk⟩ := Int.eq_ofNat_of_zero_le h
    simp [Nat.pow_eq, hk]
  · next h =>
    obtain ⟨k, hk⟩ := Int.eq_ofNat_of_zero_le (by omega : 0 ≤ -d.exponent)
    have he : d.exponent = -(k : Int) := by omega
    simp [Nat.pow_eq, he, div_eq_mul_inv]

/-- The fraction of a decimal has a denominator. -/
theorem ratio_den_pos (d : Decimal) : 0 < d.ratio.2 := by
  unfold Decimal.ratio
  split
  · exact Nat.one_pos
  · exact Nat.pow_pos (by decide)

/-! ## The double of a ratio -/

theorem roundHalfEven_mul_le (num den : Nat) : roundHalfEven num den * den ≤ 2 * num := by
  have hdiv : num / den * den + num % den = num := by
    rw [Nat.mul_comm]
    exact Nat.div_add_mod num den
  -- rounding up costs at most the remainder once more
  have hup : den ≤ 2 * (num % den) → (num / den + 1) * den ≤ 2 * num := by
    intro h
    rw [Nat.add_mul, Nat.one_mul]
    omega
  unfold roundHalfEven
  dsimp only
  split
  · omega
  · split
    · exact hup (by omega)
    · split
      · omega
      · exact hup (by omega)

theorem roundHalfEven_le_value {r : Nat × Nat} (h : 0 < r.2) : (roundHalfEven r.1 r.2 : ℚ) ≤ 2 * ratioValue r := by
  have hmul : (roundHalfEven r.1 r.2 * r.2 : ℚ) ≤ 2 * r.1 := by exact_mod_cast roundHalfEven_mul_le r.1 r.2
  have hpos : (0 : ℚ) < r.2 := by exact_mod_cast h
  rw [ratioValue, ← mul_div_assoc, le_div_iff₀ hpos]
  exact hmul

/-- The greatest size of a quotient that is looked at here: with it, rounded to two places, a number has far fewer
    digits than are kept. -/
def sizeLimit : Nat :=
  Nat.pow 10 25

theorem ratioExponent_le {num den : Nat} (hnum : num ≠ 0) (hle : num ≤ sizeLimit * den) :
    Double.ratioExponent num den ≤ 32 := by
  have hlog : num.log2 < den.log2 + 85 := by
    rw [Nat.log2_lt hnum]
    have hden : den < 2 ^ (den.log2 + 1) := Nat.lt_log2_self
    have hlimit : sizeLimit < 2 ^ 84 := by decide
    calc num ≤ sizeLimit * den := hle
      _ ≤ 2 ^ 84 * den := Nat.mul_le_mul_right _ hlimit.le
      _ < 2 ^ 84 * 2 ^ (den.log2 + 1) := Nat.mul_lt_mul_of_pos_left hden (by decide)
      _ = 2 ^ (den.log2 + 85) := by rw [← Nat.pow_add]; congr 1; omega
  unfold Double.ratioExponent Double.leastExponent
  dsimp only
  split <;> omega

/-- A mantissa of 54 bits is halved and the exponent goes up by one, which keeps the value. -/
theorem carry_value (half : Nat) (e : Int) : (half : ℚ) * 2 ^ (e + 1) = (2 * half : Nat) * 2 ^ e := by
  rw [zpow_add₀ (by norm_num)]
  push_cast
  ring

/-- **A ratio of moderate size has a finite double**, at most twice as large. -/
theorem ofRatio_finite (negative : Bool) {num den : Nat} (hden : 0 < den) (hle : num ≤ sizeLimit * den) :
    ∃ m e, Double.ofRatio negative num den = .finite negative m e ∧ (m : ℚ) * 2 ^ e ≤ 2 * (num / den) := by
  by_cases hnum : num = 0
  · exact ⟨0, Double.leastExponent, by simp [Double.ofRatio, hnum], by simp [hnum]⟩
  have hexp := ratioExponent_le hnum hle
  have hfinite {e : Int} (he : e ≤ 33) : ¬ Double.greatestExponent < e := by
    unfold Double.greatestExponent
    omega
  rw [Double.ofRatio, if_neg hnum]
  extract_lets e r m
  have hr : ratioValue r = num / den * 2 ^ (-e) := scaled_value num den (-e)
  have hm : (m : ℚ) ≤ 2 * ratioValue r := roundHalfEven_le_value (scaled_den_pos num hden (-e))
  have hvalue : (m : ℚ) * 2 ^ e ≤ 2 * (num / den) := by
    have hpow : (0 : ℚ) < 2 ^ e := by positivity
    calc (m : ℚ) * 2 ^ e ≤ 2 * (num / den * 2 ^ (-e)) * 2 ^ e := mul_le_mul_of_nonneg_right (hr ▸ hm) hpow.le
      _ = 2 * (num / den) := by rw [zpow_neg]; field_simp
  change e ≤ 32 at hexp
  clear_value e r m
  -- the size of the mantissa does not matter here, only that a carry halves it
  generalize Double.leastMantissa = half
  by_cases hcarry : m = 2 * half
  · rw [if_pos hcarry]
    refine ⟨half, e + 1, if_neg (hfinite (by omega)), ?_⟩
    rw [carry_value, ← hcarry]
    exact hvalue
  · rw [if_neg hcarry]
    exact ⟨m, e, if_neg (hfinite (by omega)), hvalue⟩

/-! ## The shortest digits -/

theorem normalize_value (fuel : Nat) (d : Decimal) : (d.normalize fuel).value = d.value := by
  induction fuel generalizing d with
  | zero => rfl
  | succ fuel ih =>
    rw [Decimal.normalize]
    split
    · next h =>
      simp only [Bool.and_eq_true, decide_eq_true_eq] at h
      obtain ⟨k, hk⟩ := Nat.dvd_of_mod_eq_zero h.2
      rw [ih, Decimal.value, Decimal.value, hk, Nat.mul_div_cancel_left _ (by decide), zpow_add₀ (by norm_num)]
      push_cast
      ring
    · rfl

theorem le_ratioValue_of_ratioLe {a b : Nat × Nat} (ha : 0 < a.2) (hb : 0 < b.2) (h : ratioLe a b) :
    ratioValue a ≤ ratioValue b := by
  have ha' : (0 : ℚ) < a.2 := by exact_mod_cast ha
  have hb' : (0 : ℚ) < b.2 := by exact_mod_cast hb
  rw [ratioValue, ratioValue, div_le_div_iff₀ ha' hb']
  exact_mod_cast of_decide_eq_true h

/-- The first digit of a ratio stands for a power of ten that is no larger than the ratio. -/
theorem magnitudeOf_le {num den : Nat} (hnum : 0 < num) (hden : 0 < den) :
    (10 : ℚ) ^ (magnitudeOf num den - 1) ≤ num / den := by
  unfold magnitudeOf
  dsimp only
  split
  · next h =>
    have hle := le_ratioValue_of_ratioLe (ratio_den_pos _) hden h
    rw [ratio_value] at hle
    simpa [Decimal.value, ratioValue] using hle
  · obtain ⟨a, ha⟩ := Nat.exists_eq_add_of_lt (Nat.length_toDigits_pos (b := 10) (n := num))
    obtain ⟨b, hb⟩ : ∃ b, (Nat.toDigits 10 den).length = b := ⟨_, rfl⟩
    have hpow : (10 : ℚ) ^ a ≤ num := by
      have hlen : ¬ (Nat.toDigits 10 num).length ≤ a := by omega
      by_cases ha0 : a = 0
      · rw [ha0]
        exact_mod_cast hnum
      · rw [Nat.length_toDigits_le_iff (by decide) (Nat.pos_of_ne_zero ha0), Nat.not_lt] at hlen
        exact_mod_cast hlen
    have hden' : (den : ℚ) ≤ 10 ^ b := by
      have hlen := (Nat.length_toDigits_le_iff (b := 10) (n := den) (by decide) Nat.length_toDigits_pos).1 le_rfl
      rw [hb] at hlen
      exact_mod_cast hlen.le
    have hpos : (0 : ℚ) < den := by exact_mod_cast hden
    have hexp : ((Nat.toDigits 10 num).length : Int) - (Nat.toDigits 10 den).length - 1 = (a : Int) - b := by omega
    rw [hexp, zpow_sub₀ (by norm_num), zpow_natCast, zpow_natCast]
    exact div_le_div₀ (by positivity) hpow hpos hden'

/-- A neighbour of a value is at most one unit of its last digit above it. -/
theorem neighbour?_value_le {m : Nat} {q e : Int} {d : Decimal} (h : neighbour? m q e = some d) :
    d.value ≤ m * 2 ^ q + 10 ^ e := by
  unfold neighbour? Double.magnitude at h
  dsimp only at h
  have hvalue : ratioValue (Double.scaled m 1 q) = m * 2 ^ q := by simp [scaled_value]
  have hunit : ratioValue (Decimal.mk 1 e).ratio = 10 ^ e := by simp [ratio_value, Decimal.value]
  generalize Double.scaled m 1 q = v at h hvalue
  generalize (Decimal.mk 1 e).ratio = unit at h hunit
  -- the lower neighbour is not above the value, the higher one is one unit further
  have hlow : ((v.1 * unit.2 / (v.2 * unit.1) : Nat) : ℚ) * 10 ^ e ≤ m * 2 ^ q := by
    have hpow : (0 : ℚ) < 10 ^ e := by positivity
    rw [← le_div_iff₀ hpow, ← hvalue, ← hunit]
    rw [ratioValue, ratioValue, div_div_div_eq]
    exact_mod_cast Nat.cast_div_le
  generalize v.1 * unit.2 / (v.2 * unit.1) = f at h hlow
  have hd : d.exponent = e ∧ d.coefficient ≤ f + 1 := by
    split at h
    · split at h <;> cases h <;> simp
    · cases h
      simp
    · cases h
      simp
    · cases h
  have hcoefficient : (d.coefficient : ℚ) ≤ f + 1 := by exact_mod_cast hd.2
  have hpow : (0 : ℚ) < 10 ^ e := by positivity
  calc d.value ≤ (f + 1) * 10 ^ e := by
        rw [Decimal.value, hd.1]
        exact mul_le_mul_of_nonneg_right hcoefficient hpow.le
    _ = f * 10 ^ e + 10 ^ e := by ring
    _ ≤ m * 2 ^ q + 10 ^ e := by linarith

/-- **The shortest digits of a double write at most twice the double.** -/
theorem shortest_le {m : Nat} (hm : 0 < m) (q : Int) : (shortest m q).value ≤ 2 * (m * 2 ^ q) := by
  have hpos : (0 : ℚ) < m * 2 ^ q := by
    have hm' : (0 : ℚ) < m := by exact_mod_cast hm
    positivity
  unfold shortest
  dsimp only
  rw [normalize_value]
  cases hfound : (List.range 17).findSome? fun n : Nat =>
      neighbour? m q (magnitudeOf (Double.magnitude m q).1 (Double.magnitude m q).2 - (n + 1)) with
  | none =>
    simp only [Option.getD_none, Decimal.value, Nat.cast_zero, zero_mul]
    linarith
  | some d =>
    obtain ⟨n, -, hd⟩ := List.exists_of_findSome?_eq_some hfound
    have htop : (10 : ℚ) ^ (magnitudeOf (Double.magnitude m q).1 (Double.magnitude m q).2 - 1) ≤ m * 2 ^ q := by
      have hvalue : ratioValue (Double.magnitude m q) = m * 2 ^ q := by simp [Double.magnitude, scaled_value]
      rw [← hvalue]
      exact magnitudeOf_le (scaled_num_pos hm 1 q) (scaled_den_pos m Nat.one_pos q)
    generalize magnitudeOf (Double.magnitude m q).1 (Double.magnitude m q).2 = top at htop hd
    have hlast : (10 : ℚ) ^ (top - (n + 1)) ≤ 10 ^ (top - 1) := zpow_le_zpow_right₀ (by norm_num) (by omega)
    calc d.value ≤ m * 2 ^ q + 10 ^ (top - (n + 1)) := neighbour?_value_le hd
      _ ≤ 2 * (m * 2 ^ q) := by linarith

end SpringAtlas
