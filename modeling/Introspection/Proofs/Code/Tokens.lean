import Introspection.Code.Expr
import Introspection.Proofs.Decimal.Rounding
import Introspection.Proofs.Text.Escapes

/-!
# String literals and numbers

A string literal shows where it ends: it is closed by the first quote that is not escaped. A number
just goes on as long as there are digits and letters, so it is told from what follows it only because
a comma or a closing bracket stands behind every expression.
-/

namespace Introspection

/-! ## String literals -/

namespace Code

open Text (IsPiece)

theorem exists_literalBody_cons (c : Char) (cs : List Char) :
    ∃ piece, IsPiece c piece ∧ literalBody (c :: cs) = piece ++ literalBody cs := by
  rw [literalBody]
  split
  · next h =>
    obtain ⟨rfl, -⟩ : c = '\x00' ∧ _ := by simpa using h
    exact ⟨_, .nul, rfl⟩
  · exact ⟨_, Text.isPiece_escape c, rfl⟩

theorem literalBody_append_inj {cs cs' rest rest' : List Char}
    (h : literalBody cs ++ '"' :: rest = literalBody cs' ++ '"' :: rest') :
    cs = cs' ∧ rest = rest' := by
  induction cs generalizing cs' with
  | nil =>
    cases cs' with
    | nil => exact ⟨rfl, (List.cons.inj h).2⟩
    | cons c' cs' =>
      obtain ⟨piece', hpiece', hbody'⟩ := exists_literalBody_cons c' cs'
      rw [hbody', List.append_assoc] at h
      exact absurd h.symm hpiece'.append_ne_quote
  | cons c cs ih =>
    obtain ⟨piece, hpiece, hbody⟩ := exists_literalBody_cons c cs
    rw [hbody, List.append_assoc] at h
    cases cs' with
    | nil => exact absurd h hpiece.append_ne_quote
    | cons c' cs' =>
      obtain ⟨piece', hpiece', hbody'⟩ := exists_literalBody_cons c' cs'
      rw [hbody', List.append_assoc] at h
      obtain ⟨rfl, htail⟩ := hpiece.append_inj hpiece' h
      obtain ⟨rfl, hrest⟩ := ih htail
      exact ⟨rfl, hrest⟩

theorem stringLiteral_append_inj {s s' : String} {rest rest' : List Char}
    (h : (stringLiteral s).toList ++ rest = (stringLiteral s').toList ++ rest') :
    s = s' ∧ rest = rest' := by
  simp only [stringLiteral, String.toList_ofList, List.cons_append, List.append_assoc,
    List.cons.injEq, true_and, List.nil_append] at h
  obtain ⟨hbody, hrest⟩ := literalBody_append_inj h
  exact ⟨String.toList_inj.1 hbody, hrest⟩

theorem signatureText_append_inj {s s' : String} {rest rest' : List Char}
    (h : (signatureText s).toList ++ rest = (signatureText s').toList ++ rest') :
    s = s' ∧ rest = rest' := by
  simp only [signatureText_eq, String.toList_append, List.append_assoc,
    List.append_cancel_left_eq] at h
  obtain ⟨rfl, hclosed⟩ := stringLiteral_append_inj h
  exact ⟨rfl, List.append_cancel_left hclosed⟩

/-! ## What follows an expression -/

/-- An expression stands before a closing bracket or a comma. -/
def Follows (rest : List Char) : Prop :=
  ∃ stop ∈ [")", "]", " ,"], stop.toList <+: rest

theorem follows_paren (rest : List Char) : Follows (")".toList ++ rest) :=
  ⟨_, by decide, List.prefix_append _ rest⟩

theorem follows_bracket (rest : List Char) : Follows ("]".toList ++ rest) :=
  ⟨_, by decide, List.prefix_append _ rest⟩

theorem follows_comma (rest : List Char) : Follows (" ,".toList ++ rest) :=
  ⟨_, by decide, List.prefix_append _ rest⟩

theorem follows_separator (rest : List Char) : Follows (" , ".toList ++ rest) :=
  follows_comma (' ' :: rest)

theorem Follows.mem_of_head? {rest : List Char} (h : Follows rest) {c : Char}
    (hc : rest.head? = some c) : c ∈ [')', ']', ' '] := by
  obtain ⟨stop, hstop, tail, rfl⟩ := h
  simp only [List.mem_cons, List.not_mem_nil, or_false] at hstop
  rcases hstop with rfl | rfl | rfl
  · exact Option.some.inj hc ▸ List.mem_cons_self
  · exact Option.some.inj hc ▸ (by decide : ']' ∈ [')', ']', ' '])
  · exact Option.some.inj hc ▸ (by decide : ' ' ∈ [')', ']', ' '])

/-- No method is called on what an expression stands for. -/
theorem not_follows_call (rest : List Char) : ¬ Follows (" . ".toList ++ rest) := by
  rintro ⟨stop, hstop, hbegins⟩
  have hall : ∀ stop ∈ [")", "]", " ,"], ¬ stop.toList <+: " . ".toList := by decide
  have hshort : ∀ stop ∈ [")", "]", " ,"], stop.toList.length ≤ " . ".toList.length := by decide
  exact hall stop hstop (List.prefix_of_prefix_length_le hbegins (List.prefix_append _ rest)
    (hshort stop hstop))

end Code

/-! ## Numbers -/

def IsDecimalChar (c : Char) : Prop :=
  c.isDigit = true ∨ c = '.'

/-- Digits, perhaps with points between and behind them. -/
structure IsDecimal (cs : List Char) : Prop where
  forall_mem : ∀ c ∈ cs, IsDecimalChar c
  exists_head : ∃ d : Fin 10, cs.head? = some (Nat.digitChar d)

theorem isDecimal_toDigits (n : Nat) : IsDecimal (Nat.toDigits 10 n) := by
  constructor
  · intro c hc
    exact .inl (Nat.isDigit_of_mem_toDigits (by decide) (by decide) hc)
  · obtain ⟨c, tail, hcons⟩ := List.exists_cons_of_length_pos
      (Nat.length_toDigits_pos : 0 < (Nat.toDigits 10 n).length)
    obtain ⟨d, hd, rfl⟩ := Text.exists_digit_of_mem_toDigits (by decide : 1 < 10)
      (hcons ▸ List.mem_cons_self : c ∈ Nat.toDigits 10 n)
    exact ⟨⟨d, hd⟩, by rw [hcons]; rfl⟩

namespace Double

theorem exists_toList_magnitude (x : Double) :
    ∃ whole width fraction, x.magnitude.toList =
      Nat.toDigits 10 whole ++ '.' :: Decimal.padded width fraction := by
  obtain ⟨whole, width, fraction, h⟩ := x.decimal.exists_hasParts
  exact ⟨whole, width, fraction, by rw [magnitude_eq, h.toList_positional]⟩

theorem isDecimal_magnitude (x : Double) : IsDecimal x.magnitude.toList := by
  obtain ⟨whole, width, fraction, h⟩ := x.exists_toList_magnitude
  have hwhole := isDecimal_toDigits whole
  rw [h]
  constructor
  · intro c hc
    rcases List.mem_append.1 hc with hc | hc
    · exact hwhole.forall_mem c hc
    · rcases List.mem_cons.1 hc with rfl | hc
      · exact .inr rfl
      · exact .inl (Decimal.isDigit_of_mem_padded hc)
  · obtain ⟨d, hd⟩ := hwhole.exists_head
    exact ⟨d, by rw [List.head?_append, hd]; rfl⟩

theorem toList_magnitude_ne_toDigits (x : Double) (n : Nat) :
    x.magnitude.toList ≠ Nat.toDigits 10 n := by
  obtain ⟨whole, width, fraction, h⟩ := x.exists_toList_magnitude
  intro heq
  refine Decimal.point_not_mem_toDigits n ?_
  rw [← heq, h]
  exact List.mem_append_right _ List.mem_cons_self

end Double

namespace Code

/-- What is written of a number. Only integers name their type. -/
@[ext]
structure Numeral where
  negative : Bool
  digits : List Char
  type : Option IntType
  isDecimal_digits : IsDecimal digits

namespace Numeral

def signText (negative : Bool) : List Char :=
  if negative then "- ".toList else []

def suffixText (type : Option IntType) : List Char :=
  ((type.map IntType.text).getD "").toList

def text (m : Numeral) : List Char :=
  signText m.negative ++ (m.digits ++ suffixText m.type)

theorem isPrefixFree_text : Text.IsPrefixFree fun type : IntType ↦ type.text.toList := by
  intro type type'
  cases type <;> cases type' <;> decide

variable {rest rest' : List Char}

theorem mem_of_head?_suffixText {type : IntType} {c : Char}
    (hc : (suffixText (some type) ++ rest).head? = some c) : c ∈ ['i', 'u'] := by
  cases type with
  | i16 | i32 | i64 => exact Option.some.inj hc ▸ (by decide : 'i' ∈ ['i', 'u'])
  | u8 | u16 | u32 | u64 => exact Option.some.inj hc ▸ (by decide : 'u' ∈ ['i', 'u'])

theorem suffixText_none_append_ne (hrest : Follows rest) (type : IntType) :
    suffixText none ++ rest ≠ suffixText (some type) ++ rest' := by
  intro h
  have hrest' : rest = suffixText (some type) ++ rest' := h
  have hdisjoint : ∀ c ∈ ['i', 'u'], c ∉ [')', ']', ' '] := List.all_iff_forall_prop.1 (by decide)
  cases hhead : rest.head? with
  | none =>
    rw [List.head?_eq_none_iff.1 hhead] at hrest'
    cases type <;> cases hrest'
  | some c =>
    have hletter : c ∈ ['i', 'u'] := mem_of_head?_suffixText (hrest' ▸ hhead)
    exact hdisjoint c hletter (hrest.mem_of_head? hhead)

theorem suffixText_append_inj {type type' : Option IntType} (hrest : Follows rest)
    (hrest' : Follows rest') (h : suffixText type ++ rest = suffixText type' ++ rest') :
    type = type' ∧ rest = rest' := by
  cases type with
  | none =>
    cases type' with
    | none => exact ⟨rfl, h⟩
    | some type' => exact absurd h (suffixText_none_append_ne hrest type')
  | some type =>
    cases type' with
    | none => exact absurd h.symm (suffixText_none_append_ne hrest' type)
    | some type' =>
      obtain ⟨rfl, hrest⟩ := isPrefixFree_text.append_inj h
      exact ⟨rfl, hrest⟩

/-- The digits of a number end at its suffix or behind the number. -/
theorem not_isDecimalChar_of_mem_head? {type : Option IntType} (hrest : Follows rest) {c : Char}
    (hc : c ∈ (suffixText type ++ rest).head?) : ¬ IsDecimalChar c := by
  have hall : ∀ c ∈ ['i', 'u', ')', ']', ' '], c.isDigit = false ∧ c ≠ '.' :=
    List.all_iff_forall_prop.1 (by decide)
  have hmem : c ∈ ['i', 'u', ')', ']', ' '] := by
    cases type with
    | none => exact List.mem_append_right ['i', 'u'] (hrest.mem_of_head? hc)
    | some type => exact List.mem_append_left [')', ']', ' '] (mem_of_head?_suffixText hc)
  obtain ⟨hdigit, hpoint⟩ := hall c hmem
  rintro (h | h)
  · exact Bool.false_ne_true (hdigit.symm.trans h)
  · exact hpoint h

theorem digits_append_ne_sign (m : Numeral) : m.digits ++ rest ≠ "- ".toList ++ rest' := by
  obtain ⟨d, hd⟩ := m.isDecimal_digits.exists_head
  have hall : ∀ d : Fin 10, some (Nat.digitChar d) ≠ some '-' := by decide
  intro h
  have hheads := congrArg List.head? h
  rw [List.head?_append, hd] at hheads
  exact hall d hheads

theorem signText_append_inj {m m' : Numeral}
    (h : signText m.negative ++ (m.digits ++ rest) = signText m'.negative ++ (m'.digits ++ rest')) :
    m.negative = m'.negative ∧ m.digits ++ rest = m'.digits ++ rest' := by
  cases hsign : m.negative with
  | false =>
    cases hsign' : m'.negative with
    | false =>
      rw [hsign, hsign'] at h
      exact ⟨rfl, h⟩
    | true =>
      rw [hsign, hsign'] at h
      exact absurd h m.digits_append_ne_sign
  | true =>
    cases hsign' : m'.negative with
    | false =>
      rw [hsign, hsign'] at h
      exact absurd h.symm m'.digits_append_ne_sign
    | true =>
      rw [hsign, hsign'] at h
      exact ⟨rfl, List.append_cancel_left h⟩

theorem text_append_inj {m m' : Numeral} (hrest : Follows rest) (hrest' : Follows rest')
    (h : m.text ++ rest = m'.text ++ rest') : m = m' ∧ rest = rest' := by
  simp only [text, List.append_assoc] at h
  obtain ⟨hnegative, hunsigned⟩ := signText_append_inj h
  obtain ⟨hdigits, hsuffix⟩ := Text.append_inj_of_forall m.isDecimal_digits.forall_mem
    m'.isDecimal_digits.forall_mem (fun _ ↦ not_isDecimalChar_of_mem_head? hrest)
    (fun _ ↦ not_isDecimalChar_of_mem_head? hrest') hunsigned
  obtain ⟨htype, hrest⟩ := suffixText_append_inj hrest hrest' hsuffix
  exact ⟨Numeral.ext hnegative hdigits htype, hrest⟩

end Numeral

end Code

end Introspection
