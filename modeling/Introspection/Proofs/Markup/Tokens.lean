import Introspection.Proofs.Markup.Grammar
import Mathlib.Data.List.TakeWhile

/-!
# Names and references

A legal name is taken apart into its scope and its base name, and a reference stands for one
character. None of the characters that a piece of markup is written with is refused.
-/

namespace Introspection.Markup

variable {c : Char}

/-! ## Characters -/

theorem exists_of_isTextChar_eq_false (h : isTextChar c = false) :
    ∃ n, c = Char.ofNat n ∧ (n < 0x20 ∨ n = 0xfffe ∨ n = 0xffff) := by
  refine ⟨c.toNat, (Char.ofNat_toNat c).symm, ?_⟩
  simp [isTextChar] at h
  omega

theorem isTextChar_of_isNameChar (h : isNameChar c = true) : isTextChar c = true := by
  by_contra hc
  obtain ⟨n, rfl, hn⟩ := exists_of_isTextChar_eq_false (Bool.eq_false_iff.2 hc)
  have hcontrol : ∀ n < 0x20, isNameChar (Char.ofNat n) = false := by decide
  rcases hn with hn | rfl | rfl
  · exact Bool.eq_false_iff.1 (hcontrol n hn) h
  · cases h
  · cases h

theorem isTextChar_of_isBlank (h : isBlank c = true) : isTextChar c = true := by
  simp only [isBlank, Bool.or_eq_true, beq_iff_eq] at h
  rcases h with ((rfl | rfl) | rfl) | rfl <;> rfl

theorem ne_of_isBlank (h : isBlank c = true) {mark : Char} (hmark : isBlank mark = false) :
    c ≠ mark := by
  rintro rfl
  rw [h] at hmark
  cases hmark

theorem isBlankText_nil : IsBlankText [] :=
  nofun

theorem isBlankText_space : IsBlankText [' '] :=
  List.forall_mem_singleton.2 rfl

theorem eq_or_eq_of_mem_quotes (h : c ∈ ['"', '\'']) : c = '"' ∨ c = '\'' := by
  simpa using h

theorem isNameChar_of_isNameStart (h : isNameStart c = true) : isNameChar c = true := by
  simp [isNameChar, h]

theorem isNameChar_eq_false_of_isBlank (h : isBlank c = true) : isNameChar c = false := by
  simp only [isBlank, Bool.or_eq_true, beq_iff_eq] at h
  rcases h with ((rfl | rfl) | rfl) | rfl <;> rfl

/-! ## Names -/

namespace IsNamePart

variable {text : List Char}

theorem exists_cons (h : IsNamePart text) : ∃ c rest, text = c :: rest ∧ isNameStart c = true := by
  cases text with
  | nil => cases h.head
  | cons c rest => exact ⟨c, rest, rfl, h.head⟩

theorem ne_nil (h : IsNamePart text) : text ≠ [] := by
  obtain ⟨c, rest, rfl, -⟩ := h.exists_cons
  exact List.cons_ne_nil c rest

theorem not_mem_colon (h : IsNamePart text) : ':' ∉ text :=
  fun hc ↦ (h.chars ':' hc).2 rfl

end IsNamePart

namespace Name

variable {name : Name}

theorem IsLegal.head (h : name.IsLegal) : name.text.head?.any isNameStart = true := by
  obtain ⟨scope, base⟩ := name
  cases scope with
  | none => exact h.base.head
  | some scope =>
    obtain ⟨c, rest, hscope, hc⟩ := (h.scope scope rfl).exists_cons
    simp [text, hscope, hc]

theorem IsLegal.chars (h : name.IsLegal) : ∀ c ∈ name.text, isNameChar c = true := by
  obtain ⟨scope, base⟩ := name
  cases scope with
  | none => exact fun c hc ↦ (h.base.chars c hc).1
  | some scope =>
    intro c hc
    rcases List.mem_append.1 hc with hc | hc
    · exact ((h.scope scope rfl).chars c hc).1
    · rcases List.mem_cons.1 hc with rfl | hc
      · rfl
      · exact (h.base.chars c hc).1

theorem isLegal_bare {base : String} (hhead : base.toList.head?.any isNameStart = true)
    (hchars : (base.toList.all fun c ↦ isNameChar c && c != ':') = true) :
    (⟨none, base⟩ : Name).IsLegal :=
  ⟨nofun, hhead, fun c hc ↦ by simpa using List.all_eq_true.1 hchars c hc⟩

theorem IsLegal.scoped {scope base : String} (hscope : (⟨none, scope⟩ : Name).IsLegal)
    (hbase : (⟨none, base⟩ : Name).IsLegal) : (⟨some scope, base⟩ : Name).IsLegal := by
  refine ⟨?_, hbase.base⟩
  rintro _ ⟨⟩
  exact hscope.base

/-- A legal name begins with a letter or the like. -/
theorem IsLegal.exists_cons (h : name.IsLegal) :
    ∃ c rest, name.text = c :: rest ∧ isNameStart c = true ∧ ∀ c ∈ rest, isNameChar c = true := by
  have hhead := h.head
  have hchars := h.chars
  cases htext : name.text with
  | nil => simp [htext] at hhead
  | cons c rest =>
    rw [htext] at hhead hchars
    exact ⟨c, rest, rfl, hhead, fun c hc ↦ hchars c (List.mem_cons_of_mem _ hc)⟩

/-- A name is cut at its colon. -/
theorem ofChars?_text (h : name.IsLegal) : ofChars? name.text = some name := by
  have hlegal : (name.text.head?.any isNameStart && name.text.all isNameChar) = true := by
    rw [h.head, Bool.true_and, List.all_eq_true]
    exact h.chars
  have hbase := h.base.not_mem_colon
  unfold ofChars?
  rw [hlegal]
  obtain ⟨scope, base⟩ := name
  have hbefore {text : List Char} (h : ':' ∉ text) : ∀ c ∈ text, (c != ':') = true := by
    intro c hc
    simpa using ne_of_mem_of_not_mem hc h
  cases scope with
  | none =>
    have hdrop : base.toList.dropWhile (· != ':') = [] :=
      List.dropWhile_eq_nil_iff.2 (hbefore hbase)
    simp [text, hdrop]
  | some scope =>
    have hscope := h.scope scope rfl
    have htake : (scope.toList ++ ':' :: base.toList).takeWhile (· != ':') = scope.toList := by
      rw [List.takeWhile_append_of_pos (hbefore hscope.not_mem_colon)]
      simp
    have hdrop :
        (scope.toList ++ ':' :: base.toList).dropWhile (· != ':') = ':' :: base.toList := by
      rw [List.dropWhile_append_of_pos (hbefore hscope.not_mem_colon)]
      simp
    have hne := hscope.ne_nil
    have hne' := h.base.ne_nil
    simp [text, htake, hdrop, hbase] at hne hne' ⊢
    exact ⟨hne, hne'⟩

end Name

/-! ## References -/

section Numbers

variable {base : Nat} {text : List Char} {n : Nat}

/-- What is needed to read digits in a base. -/
def ReadsDigits (base : Nat) : Prop :=
  ∀ d < base, number?.digit? base d.digitChar = some d ∧
    number?.digit? base d.digitChar.toUpper = some d

theorem readsDigits_ten : ReadsDigits 10 := by
  unfold ReadsDigits
  decide

theorem readsDigits_sixteen : ReadsDigits 16 := by
  unfold ReadsDigits
  decide

theorem ofDigits_reverse_eq_foldl (base : Nat) (digits : List Nat) :
    Nat.ofDigits base digits.reverse = digits.foldl (fun n d ↦ n * base + d) 0 := by
  rw [Nat.ofDigits_eq_foldr, List.foldr_reverse]
  congr 1
  funext n d
  rw [Nat.cast_id, Nat.add_comm, Nat.mul_comm]

theorem foldlM_digits (hbase : ReadsDigits base) {digits : List Nat}
    (h : List.Forall₂ (fun c d ↦ d < base ∧ (c = d.digitChar ∨ c = d.digitChar.toUpper)) text
      digits) (n : Nat) :
    text.foldlM (fun n c ↦ (number?.digit? base c).map (n * base + ·)) n =
      some (digits.foldl (fun n d ↦ n * base + d) n) := by
  induction h generalizing n with
  | nil => rfl
  | @cons c d text digits hc _ ih =>
    obtain ⟨hd, hc⟩ := hc
    have hdigit : number?.digit? base c = some d := by
      rcases hc with rfl | rfl
      · exact (hbase d hd).1
      · exact (hbase d hd).2
    rw [List.foldlM_cons, hdigit]
    exact ih (n * base + d)

theorem number?_of_writesNumber (hbase : ReadsDigits base) (h : WritesNumber base text n) :
    number? base text = some n := by
  obtain ⟨hne, digits, hdigits, rfl⟩ := h
  have hempty : ¬ text.isEmpty = true := by simpa using hne
  rw [number?, if_neg hempty, foldlM_digits hbase hdigits, ofDigits_reverse_eq_foldl]

/-- Digits are neither blanks nor marks. -/
theorem isTextChar_of_writesNumber (hbase : base ≤ 16) (h : WritesNumber base text n) :
    ∀ c ∈ text, isTextChar c = true ∧ c ≠ ';' := by
  obtain ⟨-, digits, hdigits, -⟩ := h
  have hchars : ∀ d < 16, (isTextChar d.digitChar = true ∧ d.digitChar ≠ ';') ∧
      isTextChar d.digitChar.toUpper = true ∧ d.digitChar.toUpper ≠ ';' := by decide
  induction hdigits with
  | nil => simp
  | cons hc _ ih =>
    refine List.forall_mem_cons.2 ⟨?_, ih⟩
    obtain ⟨hd, rfl | rfl⟩ := hc
    · exact (hchars _ (hd.trans_le hbase)).1
    · exact (hchars _ (hd.trans_le hbase)).2

end Numbers

/-- A decimal number does not look like a hexadecimal one. -/
theorem ne_x_cons_of_writesNumber {text : List Char} {n : Nat} (h : WritesNumber 10 text n)
    (rest : List Char) : text ≠ 'x' :: rest := by
  rintro rfl
  obtain ⟨-, digits, hdigits, -⟩ := h
  have hchars : ∀ d < 10, d.digitChar ≠ 'x' ∧ d.digitChar.toUpper ≠ 'x' := by decide
  cases hdigits with
  | cons hc _ =>
    obtain ⟨hd, hx | hx⟩ := hc
    · exact (hchars _ hd).1 hx.symm
    · exact (hchars _ hd).2 hx.symm

theorem charOfNumber?_toNat (h : isTextChar c = true) : charOfNumber? c.toNat = some c := by
  have hvalid : c.toNat.isValidChar := c.valid
  simp [charOfNumber?, hvalid, Char.ofNat_toNat, h]

theorem resolve?_of_refers {reference : List Char} (h : Refers reference c) :
    resolve? reference = some c := by
  cases h with
  | lt | gt | amp | apos | quot => rfl
  | decimal hdigits hc =>
    unfold resolve?
    split
    · next heq => exact absurd (List.cons.inj heq).2 (ne_x_cons_of_writesNumber hdigits _)
    · next heq =>
      rw [← (List.cons.inj heq).2, number?_of_writesNumber readsDigits_ten hdigits]
      exact charOfNumber?_toNat hc
    · next hother => exact absurd rfl (hother _)
  | hexadecimal hdigits hc =>
    rw [resolve?, number?_of_writesNumber readsDigits_sixteen hdigits]
    exact charOfNumber?_toNat hc

/-- A reference ends with its semicolon. -/
theorem isTextChar_of_refers {reference : List Char} (h : Refers reference c) :
    ∀ c ∈ reference, isTextChar c = true ∧ c ≠ ';' := by
  cases h with
  | lt | gt | amp | apos | quot => simp [isTextChar]
  | decimal hdigits =>
    exact List.forall_mem_cons.2 ⟨by decide, isTextChar_of_writesNumber (by decide) hdigits⟩
  | hexadecimal hdigits =>
    simp only [List.forall_mem_cons]
    exact ⟨by decide, by decide, isTextChar_of_writesNumber (by decide) hdigits⟩

end Introspection.Markup
