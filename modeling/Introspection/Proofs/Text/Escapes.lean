import Introspection.Proofs.Text.Reading
import Introspection.Text.Quoted
import Mathlib.Data.Bool.AllAny

/-!
# Escapes

Between two quotes every character has a piece of the text to itself. A piece shows where it ends
and which character it stands for, and none begins with the closing quote. The characters that are
escaped by number are told apart by their digits.
-/

namespace Introspection.Text

/-! ## Digits -/

theorem exists_digit_of_mem_toDigits {b n : Nat} {c : Char} (hb : 1 < b)
    (hc : c ∈ Nat.toDigits b n) : ∃ d < b, c = Nat.digitChar d := by
  induction n using Nat.strongRecOn with
  | ind n ih =>
    rw [Nat.toDigits_eq_if hb] at hc
    split at hc
    · next hlt => exact ⟨n, hlt, List.mem_singleton.1 hc⟩
    · next hge =>
      rcases List.mem_append.1 hc with hc | hc
      · exact ih _ (Nat.div_lt_self (by omega) hb) hc
      · exact ⟨n % b, Nat.mod_lt _ (by omega), List.mem_singleton.1 hc⟩

theorem digitChar_inj {d d' : Nat} (hd : d < 16) (hd' : d' < 16)
    (h : Nat.digitChar d = Nat.digitChar d') : d = d' := by
  have hall : ∀ d < 16, ∀ d' < 16, Nat.digitChar d = Nat.digitChar d' → d = d' := by decide
  exact hall d hd d' hd' h

theorem toDigits_ne_singleton {b n : Nat} (hb : 1 < b) (h : b ≤ n) (c : Char) :
    Nat.toDigits b n ≠ [c] := by
  intro hdigits
  have hpos : 0 < (Nat.toDigits b (n / b)).length := Nat.length_toDigits_pos
  rw [Nat.toDigits_of_base_le hb h] at hdigits
  have hlength := congrArg List.length hdigits
  simp only [List.length_append, List.length_singleton] at hlength
  omega

/-- Up to base 16 the digits tell the number. -/
theorem toDigits_inj {b m n : Nat} (hb : 1 < b) (hb' : b ≤ 16)
    (h : Nat.toDigits b m = Nat.toDigits b n) : m = n := by
  induction m using Nat.strongRecOn generalizing n with
  | ind m ih =>
    rcases Nat.lt_or_ge m b with hm | hm
    · rw [Nat.toDigits_of_lt_base hm] at h
      rcases Nat.lt_or_ge n b with hn | hn
      · rw [Nat.toDigits_of_lt_base hn] at h
        exact digitChar_inj (by omega) (by omega) (List.cons.inj h).1
      · exact absurd h.symm (toDigits_ne_singleton hb hn _)
    · rcases Nat.lt_or_ge n b with hn | hn
      · rw [Nat.toDigits_of_lt_base hn] at h
        exact absurd h (toDigits_ne_singleton hb hm _)
      · rw [Nat.toDigits_of_base_le hb hm, Nat.toDigits_of_base_le hb hn,
          List.append_singleton_inj] at h
        have hquotient := ih (m / b) (Nat.div_lt_self (by omega) hb) h.1
        have hremainder : m % b = n % b := by
          have hmlt := Nat.mod_lt m (by omega : b > 0)
          have hnlt := Nat.mod_lt n (by omega : b > 0)
          exact digitChar_inj (by omega) (by omega) h.2
        rw [← Nat.div_add_mod m b, ← Nat.div_add_mod n b, hquotient, hremainder]

/-! ## Pieces -/

/-- The characters that are escaped by a letter, along with it. -/
def letters : List (Char × Char) :=
  [('\\', '\\'), ('"', '"'), ('\n', 'n'), ('\r', 'r'), ('\t', 't'), ('\x00', '0')]

/-- What may stand for a character between double quotes. A NUL may be written in two digits. -/
inductive IsPiece : Char → List Char → Prop
  | plain {c : Char} : c ≠ '\\' → c ≠ '"' → IsPiece c [c]
  | letter {c letter : Char} : (c, letter) ∈ letters → IsPiece c ['\\', letter]
  | nul : IsPiece '\x00' ['\\', 'x', '0', '0']
  | number (c : Char) : IsPiece c (escapeNumber c)

theorem isPiece_escape (c : Char) : IsPiece c (escape '"' c) := by
  unfold escape
  split
  · next h => exact .letter (by rw [h]; decide)
  next hbackslash =>
  split
  · next h => exact .letter (by rw [h]; decide)
  next hquote =>
  split
  · next h => exact .letter (by rw [h]; decide)
  split
  · next h => exact .letter (by rw [h]; decide)
  split
  · next h => exact .letter (by rw [h]; decide)
  split
  · next h => exact .letter (by rw [h]; decide)
  split
  · exact .number c
  · exact .plain hbackslash hquote

theorem brace_not_mem_toDigits (n : Nat) : '}' ∉ Nat.toDigits 16 n := by
  intro h
  obtain ⟨d, hd, hc⟩ := exists_digit_of_mem_toDigits (by decide) h
  have hall : ∀ d < 16, '}' ≠ Nat.digitChar d := by decide
  exact hall d hd hc

theorem escapeNumber_append_inj {c c' : Char} {rest rest' : List Char}
    (h : escapeNumber c ++ rest = escapeNumber c' ++ rest') : c = c' ∧ rest = rest' := by
  simp only [escapeNumber, List.cons_append, List.append_assoc, List.cons.injEq, true_and,
    List.nil_append] at h
  obtain ⟨hdigits, hrest⟩ := append_cons_inj (brace_not_mem_toDigits _) (brace_not_mem_toDigits _) h
  exact ⟨Char.toNat_inj.1 (toDigits_inj (by decide) (by decide) hdigits), hrest⟩

theorem eq_of_mem_letters {c c' letter : Char} (h : (c, letter) ∈ letters)
    (h' : (c', letter) ∈ letters) : c = c' := by
  have hall : (letters.all fun pair ↦ letters.all fun pair' ↦
      pair.2 = pair'.2 → pair.1 = pair'.1) = true := by decide
  have hpair := List.all_iff_forall_prop.1 (List.all_eq_true.1 hall (c, letter) h)
  exact hpair (c', letter) h' rfl

/-- No letter announces digits. -/
theorem letter_ne {c letter : Char} (h : (c, letter) ∈ letters) : letter ≠ 'x' ∧ letter ≠ 'u' := by
  have hall : ∀ pair ∈ letters, pair.2 ≠ 'x' ∧ pair.2 ≠ 'u' :=
    List.all_iff_forall_prop.1 (by decide)
  exact hall _ h

namespace IsPiece

variable {c c' : Char} {piece piece' rest rest' : List Char}

theorem append_ne_quote (h : IsPiece c piece) : piece ++ rest ≠ '"' :: rest' := by
  intro heq
  cases h with
  | plain _ hquote => exact hquote (List.cons.inj heq).1
  | letter | nul | number => exact absurd (List.cons.inj heq).1 (by decide)

theorem append_inj (h : IsPiece c piece) (h' : IsPiece c' piece')
    (heq : piece ++ rest = piece' ++ rest') : c = c' ∧ rest = rest' := by
  cases h with
  | plain hbackslash _ =>
    cases h' with
    | plain => exact List.cons.inj heq
    | letter | nul | number => exact absurd (List.cons.inj heq).1 hbackslash
  | letter hmem =>
    cases h' with
    | plain hbackslash _ => exact absurd (List.cons.inj heq).1.symm hbackslash
    | letter hmem' =>
      obtain ⟨rfl, hrest⟩ := List.cons.inj (List.cons.inj heq).2
      exact ⟨eq_of_mem_letters hmem hmem', hrest⟩
    | nul => exact absurd (List.cons.inj (List.cons.inj heq).2).1 (letter_ne hmem).1
    | number => exact absurd (List.cons.inj (List.cons.inj heq).2).1 (letter_ne hmem).2
  | nul =>
    cases h' with
    | plain hbackslash _ => exact absurd (List.cons.inj heq).1.symm hbackslash
    | letter hmem' => exact absurd (List.cons.inj (List.cons.inj heq).2).1.symm (letter_ne hmem').1
    | nul => exact ⟨rfl, List.append_cancel_left heq⟩
    | number => exact absurd (List.cons.inj (List.cons.inj heq).2).1 (by decide)
  | number =>
    cases h' with
    | plain hbackslash _ => exact absurd (List.cons.inj heq).1.symm hbackslash
    | letter hmem' => exact absurd (List.cons.inj (List.cons.inj heq).2).1.symm (letter_ne hmem').2
    | nul => exact absurd (List.cons.inj (List.cons.inj heq).2).1 (by decide)
    | number => exact escapeNumber_append_inj heq

end IsPiece

end Introspection.Text
