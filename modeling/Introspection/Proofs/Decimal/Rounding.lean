import Introspection.Double
import Introspection.Proofs.Decimal.Positional
import Mathlib.Tactic.Linarith
import Mathlib.Tactic.Ring

/-!
# Decimals that stand for doubles

The shortest decimal of an interval lies in the interval, on whichever grid it is found. The
intervals of two doubles that differ in more than the sign have no number in common: they meet in
an end at most, and then one of the two significands is odd and its interval open. So the text of a
double reads back as that double.
-/

namespace Introspection

namespace Decimal.Interval

variable {i j : Interval} {q : ℚ}

/-! ## Numbers of an interval -/

def left (i : Interval) : ℚ :=
  i.lower * 2 ^ i.scale

def right (i : Interval) : ℚ :=
  i.upper * 2 ^ i.scale

/-- The number lies in the interval. Open intervals go without their ends. -/
structure Includes (i : Interval) (q : ℚ) : Prop where
  left_le : i.left ≤ q
  le_right : q ≤ i.right
  left_lt : i.closed = false → i.left < q
  lt_right : i.closed = false → q < i.right

/-- One interval ends before another one begins, or where it begins if one of them is open. -/
structure Below (i j : Interval) : Prop where
  right_le_left : i.right ≤ j.left
  right_lt_left : i.closed = true → j.closed = true → i.right < j.left

theorem Below.not_includes (h : i.Below j) (hi : i.Includes q) : ¬ j.Includes q := by
  intro hj
  cases hiclosed : i.closed with
  | false => exact absurd (hi.lt_right hiclosed) (not_lt.2 (h.right_le_left.trans hj.left_le))
  | true =>
    cases hjclosed : j.closed with
    | false => exact absurd (hj.left_lt hjclosed) (not_lt.2 (hi.le_right.trans h.right_le_left))
    | true =>
      have hgap := h.right_lt_left hiclosed hjclosed
      exact absurd (hi.le_right.trans_lt hgap) (not_lt.2 hj.left_le)

/-! ## Comparing with decimals -/

/-- A power of an integer exponent, with the negative part of the exponent taken to the left. -/
theorem zpow_mul_pow_toNat {b : ℚ} (hb : b ≠ 0) (z : Int) :
    b ^ z * b ^ (-z).toNat = b ^ z.toNat := by
  rw [← zpow_natCast, ← zpow_natCast, ← zpow_add₀ hb]
  congr 1
  omega

/-- The unit in which `units` and `measure` count. -/
def unit (i : Interval) (exponent : Int) : ℚ :=
  2 ^ (-i.scale).toNat * 10 ^ (-exponent).toNat

theorem unit_pos (i : Interval) (exponent : Int) : 0 < i.unit exponent := by
  unfold unit
  positivity

theorem cast_units (i : Interval) (exponent : Int) (n : Nat) :
    (i.units exponent n : ℚ) = n * 2 ^ i.scale * i.unit exponent := by
  have hunits : i.units exponent n = n * 2 ^ i.scale.toNat * 10 ^ (-exponent).toNat := rfl
  rw [hunits]
  push_cast
  rw [← zpow_mul_pow_toNat two_ne_zero i.scale, unit]
  ring

theorem cast_measure (i : Interval) (d : Decimal) :
    (i.measure d : ℚ) = d.value * i.unit d.exponent := by
  have hmeasure : i.measure d =
      d.digits * (10 ^ d.exponent.toNat * 2 ^ (-i.scale).toNat) := rfl
  rw [hmeasure]
  push_cast
  rw [← zpow_mul_pow_toNat (by norm_num : (10 : ℚ) ≠ 0) d.exponent, value, unit]
  ring

theorem units_le_measure_iff {d : Decimal} {n : Nat} :
    i.units d.exponent n ≤ i.measure d ↔ n * (2 : ℚ) ^ i.scale ≤ d.value := by
  rw [← Nat.cast_le (α := ℚ), cast_units, cast_measure,
    mul_le_mul_iff_left₀ (i.unit_pos d.exponent)]

theorem measure_le_units_iff {d : Decimal} {n : Nat} :
    i.measure d ≤ i.units d.exponent n ↔ d.value ≤ n * (2 : ℚ) ^ i.scale := by
  rw [← Nat.cast_le (α := ℚ), cast_units, cast_measure,
    mul_le_mul_iff_left₀ (i.unit_pos d.exponent)]

theorem includes_of_contains {d : Decimal} (h : i.contains d = true) : i.Includes d.value := by
  unfold contains at h
  cases hclosed : i.closed with
  | true =>
    simp only [hclosed, if_true, Bool.and_eq_true, decide_eq_true_eq] at h
    refine ⟨units_le_measure_iff.1 h.1, measure_le_units_iff.1 h.2, ?_, ?_⟩ <;> simp [hclosed]
  | false =>
    simp only [hclosed, Bool.false_eq_true, if_false, Bool.and_eq_true, decide_eq_true_eq] at h
    have hleft : i.left < d.value := not_le.1 (mt measure_le_units_iff.2 (not_le.2 h.1))
    have hright : d.value < i.right := not_le.1 (mt units_le_measure_iff.2 (not_le.2 h.2))
    exact ⟨hleft.le, hright.le, fun _ ↦ hleft, fun _ ↦ hright⟩

/-! ## Searching -/

theorem contains_of_onGrid? {exponent : Int} {d : Decimal} (h : i.onGrid? exponent = some d) :
    i.contains d = true := by
  unfold onGrid? at h
  grind

theorem value_exact (i : Interval) : i.exact.value = i.centre * 2 ^ i.scale := by
  have hexact : i.exact =
      ⟨i.centre * 2 ^ i.scale.toNat * 5 ^ (-i.scale).toNat, -(-i.scale).toNat⟩ := rfl
  have hten : (10 : ℚ) ^ (-i.scale).toNat = 2 ^ (-i.scale).toNat * 5 ^ (-i.scale).toNat := by
    rw [← mul_pow]
    norm_num
  rw [hexact, value, zpow_neg, zpow_natCast, hten]
  push_cast
  rw [← zpow_mul_pow_toNat two_ne_zero i.scale]
  field_simp

theorem includes_search (h : i.Includes (i.centre * 2 ^ i.scale)) (exponent : Int) (n : Nat) :
    i.Includes (i.search exponent n).value := by
  induction n generalizing exponent with
  | zero =>
    rw [search, value_exact]
    exact h
  | succ n ih =>
    rw [search]
    split
    · next d hd => exact includes_of_contains (contains_of_onGrid? hd)
    · exact ih (exponent - 1)

end Decimal.Interval

namespace Double

open Decimal

variable {x y : Double} {q : ℚ}

/-! ## Intervals of doubles -/

theorem significand_lt (x : Double) : x.significand < 0x20000000000000 := by
  have hfraction : x.fractionField < 0x10000000000000 := Nat.mod_lt _ (by decide)
  unfold significand
  split <;> omega

theorem includes_centre (x : Double) :
    x.interval.Includes (x.interval.centre * 2 ^ x.interval.scale) := by
  have hpos : (0 : ℚ) < 2 ^ x.interval.scale := by positivity
  have hle : x.interval.lower ≤ x.interval.centre := Nat.sub_le _ _
  have hlt : x.interval.centre < x.interval.upper := Nat.lt_add_of_pos_right (by decide)
  have hle' : x.interval.left ≤ x.interval.centre * 2 ^ x.interval.scale :=
    mul_le_mul_of_nonneg_right (Nat.cast_le.2 hle) hpos.le
  have hlt' : x.interval.centre * 2 ^ x.interval.scale < x.interval.right :=
    mul_lt_mul_of_pos_right (Nat.cast_lt.2 hlt) hpos
  refine ⟨hle', hlt'.le, fun hopen ↦ ?_, fun _ ↦ hlt'⟩
  -- Only zero has no room below it, and its interval is closed.
  have hodd : x.significand % 2 ≠ 0 := by simpa [interval] using hopen
  have hlt : x.interval.lower < x.interval.centre := by
    simp only [interval]
    split <;> omega
  exact mul_lt_mul_of_pos_right (Nat.cast_lt.2 hlt) hpos

/-- The decimal that a double is written with. -/
def decimal (x : Double) : Decimal :=
  if x.significand = 0 then ⟨0, 0⟩ else x.interval.shortest 309

theorem magnitude_eq (x : Double) : x.magnitude = x.decimal.positional := by
  unfold magnitude decimal
  split <;> rfl

theorem includes_decimal (x : Double) : x.interval.Includes x.decimal.value := by
  unfold decimal
  split
  · next hzero =>
    have hcentre : x.interval.centre * 2 ^ x.interval.scale = (value ⟨0, 0⟩ : ℚ) := by
      simp [interval, hzero, value]
    exact hcentre ▸ x.includes_centre
  · exact Interval.includes_search x.includes_centre _ _

theorem below_of_exponent_eq (hexponent : x.exponent = y.exponent)
    (h : x.significand < y.significand) : x.interval.Below y.interval := by
  have hscale : x.interval.scale = y.interval.scale := by simp [interval, hexponent]
  have hpos : (0 : ℚ) < 2 ^ y.interval.scale := by positivity
  have hle : x.interval.upper ≤ y.interval.lower := by
    simp only [interval]
    split <;> omega
  constructor
  · rw [Interval.right, Interval.left, hscale]
    exact mul_le_mul_of_nonneg_right (Nat.cast_le.2 hle) hpos.le
  · intro hx hy
    have hlt : x.interval.upper < y.interval.lower := by
      simp only [interval, beq_iff_eq] at hx hy ⊢
      split <;> omega
    rw [Interval.right, Interval.left, hscale]
    exact mul_lt_mul_of_pos_right (Nat.cast_lt.2 hlt) hpos

theorem upper_le (x : Double) : x.interval.upper ≤ 0x7ffffffffffffe := by
  have hx := x.significand_lt
  simp only [interval]
  omega

theorem le_lower (h : 1 < x.exponentField) : 0x3fffffffffffff ≤ x.interval.lower := by
  have hsignificand : x.significand = 0x10000000000000 + x.fractionField := if_neg (by omega)
  by_cases hfraction : x.fractionField = 0
  · simp [interval, hsignificand, hfraction, h]
  · simp only [interval, hsignificand, hfraction, decide_false, Bool.false_and,
      Bool.false_eq_true, if_false]
    omega

/-- The least interval of an exponent begins where the greatest one of the exponent before it
ends. -/
theorem below_of_exponent_lt (h : x.exponent < y.exponent) : x.interval.Below y.interval := by
  have hfield : 1 < y.exponentField := by
    simp only [exponent] at h
    omega
  have hupper := x.upper_le
  have hlower := le_lower hfield
  have hscale : (2 : ℚ) ^ x.interval.scale * 2 ≤ 2 ^ y.interval.scale := by
    rw [← zpow_add_one₀ two_ne_zero]
    exact zpow_le_zpow_right₀ one_le_two (by simp only [interval]; omega)
  have hpos : (0 : ℚ) < 2 ^ x.interval.scale := by positivity
  have hleft : (2 * y.interval.lower : ℕ) * (2 : ℚ) ^ x.interval.scale ≤ y.interval.left := by
    calc ((2 * y.interval.lower : ℕ) : ℚ) * 2 ^ x.interval.scale
        = y.interval.lower * (2 ^ x.interval.scale * 2) := by push_cast; ring
      _ ≤ y.interval.left := mul_le_mul_of_nonneg_left hscale (Nat.cast_nonneg _)
  constructor
  · have hle : x.interval.upper ≤ 2 * y.interval.lower := by omega
    exact (mul_le_mul_of_nonneg_right (Nat.cast_le.2 hle) hpos.le).trans hleft
  · intro hx _
    have heven : x.significand % 2 = 0 := by simpa [interval] using hx
    have hright : x.interval.upper = 4 * x.significand + 2 := rfl
    have hlt : x.interval.upper < 2 * y.interval.lower := by omega
    exact (mul_lt_mul_of_pos_right (Nat.cast_lt.2 hlt) hpos).trans_le hleft

/-- Intervals that share a number belong to the same exponent and significand. -/
theorem eq_of_includes (hx : x.interval.Includes q) (hy : y.interval.Includes q) :
    x.exponent = y.exponent ∧ x.significand = y.significand := by
  have hexponent : x.exponent = y.exponent := by
    rcases lt_trichotomy x.exponent y.exponent with hlt | heq | hlt
    · exact absurd hy ((below_of_exponent_lt hlt).not_includes hx)
    · exact heq
    · exact absurd hx ((below_of_exponent_lt hlt).not_includes hy)
  refine ⟨hexponent, ?_⟩
  rcases lt_trichotomy x.significand y.significand with hlt | heq | hlt
  · exact absurd hy ((below_of_exponent_eq hexponent hlt).not_includes hx)
  · exact heq
  · exact absurd hx ((below_of_exponent_eq hexponent.symm hlt).not_includes hy)

/-! ## Texts of doubles -/

/-- Two doubles of the same sign that are written alike are the same. -/
theorem eq_of_magnitude_eq (hsign : x.isNegative = y.isNegative)
    (h : x.magnitude = y.magnitude) : x = y := by
  rw [magnitude_eq, magnitude_eq] at h
  have hvalue : x.decimal.value = y.decimal.value := value_eq_of_positional_eq h
  obtain ⟨hexponent, hsignificand⟩ := eq_of_includes x.includes_decimal
    (hvalue ▸ y.includes_decimal)
  have hbits : x.bits.toNat = y.bits.toNat := by
    have hx := x.bits.toNat_lt
    have hy := y.bits.toNat_lt
    simp only [isNegative, decide_eq_decide] at hsign
    simp only [exponent] at hexponent
    simp only [significand] at hsignificand
    have hfields : x.exponentField = y.exponentField ∧ x.fractionField = y.fractionField := by
      have hxf : x.fractionField < 0x10000000000000 := Nat.mod_lt _ (by decide)
      have hyf : y.fractionField < 0x10000000000000 := Nat.mod_lt _ (by decide)
      split at hsignificand <;> split at hsignificand <;> omega
    simp only [exponentField, fractionField] at hfields
    omega
  cases x
  cases y
  exact congrArg Double.mk (UInt64.toNat_inj.1 hbits)

end Double

end Introspection
