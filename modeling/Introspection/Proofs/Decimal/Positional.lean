import Introspection.Decimal
import Introspection.Proofs.Text.Reading
import Mathlib.Algebra.Order.Field.Power
import Mathlib.Data.Rat.Cast.Order
import Mathlib.Tactic.FieldSimp
import Mathlib.Tactic.Positivity

/-!
# Decimals in positional notation

The text of a decimal shows the number that the decimal stands for: the digits before the point are
those of its whole part, and the ones behind it are those of its fraction, with zeros in front as
far as needed.
-/

namespace Introspection.Decimal

/-- The number that a decimal stands for. -/
def value (d : Decimal) : ℚ :=
  d.digits * 10 ^ d.exponent

/-! ## Digits behind the point -/

/-- The digits of a number with zeros in front. -/
def padded (width n : Nat) : List Char :=
  List.replicate (width - (Nat.toDigits 10 n).length) '0' ++ Nat.toDigits 10 n

theorem ofDigitChars_padded (width n : Nat) : Nat.ofDigitChars 10 (padded width n) 0 = n := by
  rw [padded, Nat.ofDigitChars_append, Nat.ofDigitChars_replicate_zero, Nat.mul_zero,
    Nat.ofDigitChars_toDigits (by decide) (by decide)]

theorem length_padded {width n : Nat} (hwidth : 0 < width) (h : n < 10 ^ width) :
    (padded width n).length = width := by
  have hlen : (Nat.toDigits 10 n).length ≤ width :=
    (Nat.length_toDigits_le_iff (by decide) hwidth).2 h
  rw [padded, List.length_append, List.length_replicate]
  omega

theorem isDigit_of_mem_padded {width n : Nat} {c : Char} (h : c ∈ padded width n) :
    c.isDigit = true := by
  rcases List.mem_append.1 h with h | h
  · rw [List.eq_of_mem_replicate h]
    rfl
  · exact Nat.isDigit_of_mem_toDigits (by decide) (by decide) h

theorem toList_pushn (s : String) (c : Char) (n : Nat) :
    (s.pushn c n).toList = s.toList ++ List.replicate n c := by
  rw [String.pushn_eq_repeat_push]
  induction n with
  | zero => simp [Nat.repeat]
  | succ n ih => simp [Nat.repeat, ih, List.replicate_succ']

theorem toList_toString (n : Nat) : (toString n).toList = Nat.toDigits 10 n := by
  rw [Nat.toString_eq_ofList_toDigits, String.toList_ofList]

/-! ## Whole part and fraction -/

theorem toList_positional_ofNat (digits n : Nat) :
    (positional ⟨digits, .ofNat n⟩).toList =
      Nat.toDigits 10 (digits * 10 ^ n) ++ '.' :: padded 1 0 := by
  rw [positional, String.toList_append]
  exact congrArg (· ++ _) (toList_toString _)

theorem toList_positional_negSucc (digits n : Nat) :
    (positional ⟨digits, .negSucc n⟩).toList =
      Nat.toDigits 10 (digits / 10 ^ (n + 1)) ++ '.' :: padded (n + 1) (digits % 10 ^ (n + 1)) := by
  have hlength : (toString (digits % 10 ^ (n + 1))).length =
      (Nat.toDigits 10 (digits % 10 ^ (n + 1))).length := by
    rw [← toList_toString, String.length_toList]
  calc (positional ⟨digits, .negSucc n⟩).toList
      = (toString (digits / 10 ^ (n + 1)) ++ "." ++
          "".pushn '0' (n + 1 - (toString (digits % 10 ^ (n + 1))).length) ++
            toString (digits % 10 ^ (n + 1))).toList := rfl
    _ = _ := by
      rw [String.toList_append, String.toList_append, String.toList_append, toList_pushn,
        toList_toString, toList_toString, hlength, padded]
      simp

/-- What the text of a decimal is made of, and the number that this shows. -/
structure HasParts (d : Decimal) (whole width fraction : Nat) : Prop where
  width_pos : 0 < width
  fraction_lt : fraction < 10 ^ width
  toList_positional :
    d.positional.toList = Nat.toDigits 10 whole ++ '.' :: padded width fraction
  value_eq : d.value = whole + fraction / 10 ^ width

theorem exists_hasParts (d : Decimal) : ∃ whole width fraction, d.HasParts whole width fraction := by
  obtain ⟨digits, exponent⟩ := d
  cases exponent with
  | ofNat n =>
    refine ⟨digits * 10 ^ n, 1, 0, by decide, by decide, toList_positional_ofNat digits n, ?_⟩
    simp [value]
  | negSucc n =>
    refine ⟨digits / 10 ^ (n + 1), n + 1, digits % 10 ^ (n + 1), n.succ_pos,
      Nat.mod_lt _ (by positivity), toList_positional_negSucc digits n, ?_⟩
    have hsplit : (digits : ℚ) =
        10 ^ (n + 1) * (digits / 10 ^ (n + 1) : ℕ) + (digits % 10 ^ (n + 1) : ℕ) := by
      exact_mod_cast (Nat.div_add_mod digits (10 ^ (n + 1))).symm
    rw [value, zpow_negSucc, hsplit]
    field_simp

theorem point_not_mem_toDigits (n : Nat) : '.' ∉ Nat.toDigits 10 n := by
  intro h
  have hdigit : ('.' : Char).isDigit = true :=
    Nat.isDigit_of_mem_toDigits (by decide) (by decide) h
  exact absurd hdigit (by decide)

/-- The text of a decimal tells which number it is. -/
theorem value_eq_of_positional_eq {d d' : Decimal} (h : d.positional = d'.positional) :
    d.value = d'.value := by
  obtain ⟨whole, width, fraction, hd⟩ := d.exists_hasParts
  obtain ⟨whole', width', fraction', hd'⟩ := d'.exists_hasParts
  have hlists := congrArg String.toList h
  rw [hd.toList_positional, hd'.toList_positional] at hlists
  obtain ⟨hwhole, hfraction⟩ := Text.append_cons_inj (point_not_mem_toDigits whole)
    (point_not_mem_toDigits whole') hlists
  have hwhole : whole = whole' := by
    simpa [Nat.ofDigitChars_toDigits] using congrArg (Nat.ofDigitChars 10 · 0) hwhole
  have hwidth : width = width' := by
    rw [← length_padded hd.width_pos hd.fraction_lt, hfraction,
      length_padded hd'.width_pos hd'.fraction_lt]
  have hfraction : fraction = fraction' := by
    simpa [ofDigitChars_padded] using congrArg (Nat.ofDigitChars 10 · 0) hfraction
  rw [hd.value_eq, hd'.value_eq, hwhole, hwidth, hfraction]

end Introspection.Decimal
