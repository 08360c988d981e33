import Introspection.Proofs.Code.ExprForms
import Introspection.Proofs.Code.TypeTexts

/-!
# Texts of expressions

The text of an expression is read in one way only. Its form is known from its beginning, and every
form but a number closes what it opens. An entry of a map begins like a tuple; the tuple has one
more comma, which is found out when two of its members have been read.
-/

namespace Introspection.Code

namespace Item

variable {rest rest' : List Char}

/-- Equal texts have the same form, and differ only in what follows the opening. -/
theorem exists_common_form {item item' : Item} (h : item.text ++ rest = item'.text ++ rest') :
    ∃ form tail tail', item.WrittenAs form tail ∧ item'.WrittenAs form tail' ∧
      tail ++ rest = tail' ++ rest' := by
  obtain ⟨form, tail, ht, htext⟩ := item.exists_writtenAs
  obtain ⟨form', tail', ht', htext'⟩ := item'.exists_writtenAs
  rw [htext, htext', List.append_assoc, List.append_assoc] at h
  obtain ⟨rfl, htail⟩ := ExprForm.isPrefixFree_opening.append_inj h
  exact ⟨form, tail, tail', ht, ht', htail⟩

/-- No text begins with a closing bracket. -/
theorem text_append_ne_close (item : Item) {stop : String} (hstop : stop ∈ [")", "]"])
    (rest rest' : List Char) : item.text ++ rest ≠ stop.toList ++ rest' := by
  obtain ⟨form, tail, -, htext⟩ := item.exists_writtenAs
  have hall : ∀ stop ∈ [")", "]"], ∀ form ∈ ExprForm.all,
      form.opening.head? ≠ none ∧ form.opening.head? ≠ stop.toList.head? ∧
        stop.toList.head? ≠ none := by decide +kernel
  obtain ⟨hopening, hne, hsome⟩ := hall stop hstop form form.mem_all
  intro h
  have hheads := congrArg List.head? h
  rw [htext, List.append_assoc, List.head?_append_of_ne_nil _ (mt List.head?_eq_none_iff.2 hopening),
    List.head?_append_of_ne_nil _ (mt List.head?_eq_none_iff.2 hsome)] at hheads
  exact hne hheads

theorem listText_append_inj {items items' : List Item} (hitems : ∀ item ∈ items, item.IsTold)
    (h : listText items ++ ("]".toList ++ rest) = listText items' ++ ("]".toList ++ rest')) :
    items = items' ∧ rest = rest' :=
  Text.intercalate_append_inj (fun _ _ heq ↦ by cases heq)
    (fun item ↦ item.text_append_ne_close (by decide))
    (fun rest ↦ ⟨follows_separator rest, follows_bracket rest⟩)
    (fun item hitem ↦ (hitems item hitem).append_inj) h

/-- A tuple is not an entry, as far as its members are told from the parts of the entry. -/
theorem tuple_append_ne_entry {members : List Expr} {key value : Expr}
    (hmembers : ∀ m ∈ members, ∀ part ∈ [key, value], ∀ {rest rest' : List Char},
      Follows rest → Follows rest' → m.text.toList ++ rest = part.text.toList ++ rest' →
        rest = rest') :
    (" ".toList.intercalate (members.map Expr.memberText) ++ ")".toList) ++ rest ≠
      (key.text.toList ++ (" , ".toList ++ (value.text.toList ++ ")".toList))) ++ rest' := by
  intro h
  simp only [List.append_assoc] at h
  cases members with
  | nil => exact (expr key).text_append_ne_close (by decide : ")" ∈ _) _ _ h.symm
  | cons first members =>
    rw [List.map_cons, Text.intercalate_cons_append, Expr.memberText, List.append_assoc] at h
    have hbehind := hmembers first List.mem_cons_self key (by simp) (follows_comma _)
      (follows_separator _) h
    cases members with
    | nil => cases hbehind
    | cons second members =>
      have hsecond := @List.append_cancel_left _ " , ".toList _ _ hbehind
      rw [List.map_cons, Text.intercalate_cons_append, Expr.memberText, List.append_assoc] at hsecond
      have hclosed := hmembers second (by simp) value (by simp) (follows_comma _)
        (follows_paren _) hsecond
      cases hclosed

theorem IsTold.expr_append_inj {e e' : Expr} (h : (expr e).IsTold) (hrest : Follows rest)
    (hrest' : Follows rest') (heq : e.text.toList ++ rest = e'.text.toList ++ rest') :
    e = e' ∧ rest = rest' := by
  have hitems : (expr e).text ++ rest = (expr e').text ++ rest' := heq
  obtain ⟨hexpr, hrest⟩ := h.append_inj hrest hrest' hitems
  exact ⟨expr.inj hexpr, hrest⟩

theorem isTold_entry {key value : Expr} (hkey : (expr key).IsTold) (hvalue : (expr value).IsTold) :
    (entry key value).IsTold := by
  constructor
  intro item' rest rest' hrest hrest' h
  obtain ⟨form, tail, tail', ht, ht', htail⟩ := exists_common_form h
  cases ht
  cases ht' with
  | tuple members =>
    refine absurd htail.symm (tuple_append_ne_entry fun m _ part hpart rest rest' hrest hrest' heq ↦ ?_)
    rcases List.mem_pair.1 hpart with rfl | rfl
    · exact (hkey.expr_append_inj hrest' hrest heq.symm).2.symm
    · exact (hvalue.expr_append_inj hrest' hrest heq.symm).2.symm
  | entry key' value' =>
    simp only [List.append_assoc] at htail
    obtain ⟨rfl, hbehind⟩ := hkey.expr_append_inj (follows_separator _) (follows_separator _) htail
    obtain ⟨rfl, hclosed⟩ := hvalue.expr_append_inj (follows_paren _) (follows_paren _)
      (List.append_cancel_left hbehind)
    exact ⟨rfl, List.append_cancel_left hclosed⟩

theorem isTold_of_numeral? {e : Expr} {m : Numeral} (h : e.numeral? = some m) :
    (expr e).IsTold := by
  constructor
  intro item' rest rest' hrest hrest' heq
  obtain ⟨form, tail, tail', ht, ht', -⟩ := exists_common_form heq
  have hnumber : ∃ first, form = .number first := by
    cases ht with
    | int | float => exact ⟨_, rfl⟩
    | _ => cases h
  obtain ⟨first, rfl⟩ := hnumber
  have hnumber' : ∃ e' m', item' = expr e' ∧ e'.numeral? = some m' := by
    cases ht' with
    | int | float => exact ⟨_, _, rfl, rfl⟩
  obtain ⟨e', m', rfl, he'⟩ := hnumber'
  obtain ⟨rfl, hrest⟩ := Expr.number_append_inj h he' hrest hrest' heq
  exact ⟨rfl, hrest⟩

theorem isTold_vec {items : List Expr} (hitems : ∀ e ∈ items, (expr e).IsTold) :
    (expr (.vec items)).IsTold := by
  constructor
  intro item' rest rest' hrest hrest' h
  obtain ⟨form, tail, tail', ht, ht', htail⟩ := exists_common_form h
  have htold : ∀ item ∈ items.map expr, item.IsTold := List.forall_mem_map.2 hitems
  cases ht
  cases ht' with
  | vec items' =>
    rw [List.append_assoc, List.append_assoc] at htail
    obtain ⟨heq, hrest⟩ := listText_append_inj htold htail
    cases List.map_injective_iff.2 (fun _ _ ↦ expr.inj) heq
    exact ⟨rfl, hrest⟩
  | map key' value' entries' =>
    simp only [List.append_assoc] at htail
    obtain ⟨-, hcall⟩ := listText_append_inj htold htail
    exact absurd (hcall ▸ hrest) (not_follows_call _)

theorem entry_injective : Function.Injective fun e : Expr × Expr ↦ entry e.1 e.2 := by
  rintro ⟨k, v⟩ ⟨k', v'⟩ h
  cases h
  rfl

theorem isTold_map {key value : TypeExpr} {entries : List (Expr × Expr)}
    (hentries : ∀ e ∈ entries, (expr e.1).IsTold ∧ (expr e.2).IsTold) :
    (expr (.map key value entries)).IsTold := by
  constructor
  intro item' rest rest' hrest hrest' h
  obtain ⟨form, tail, tail', ht, ht', htail⟩ := exists_common_form h
  have htold : ∀ item ∈ entries.map fun e ↦ entry e.1 e.2, item.IsTold :=
    List.forall_mem_map.2 fun e he ↦ isTold_entry (hentries e he).1 (hentries e he).2
  cases ht
  cases ht' with
  | vec items' =>
    simp only [List.append_assoc] at htail
    obtain ⟨-, hcall⟩ := listText_append_inj htold htail
    exact absurd (hcall ▸ hrest') (not_follows_call _)
  | map key' value' entries' =>
    simp only [List.append_assoc] at htail
    obtain ⟨heq, hcall⟩ := listText_append_inj htold htail
    obtain ⟨rfl, hbehind⟩ := TypeExpr.text_append_inj
      (List.append_cancel_left (List.append_cancel_left hcall))
    obtain ⟨rfl, hclosed⟩ := TypeExpr.text_append_inj (List.append_cancel_left hbehind)
    cases List.map_injective_iff.2 entry_injective heq
    exact ⟨rfl, List.append_cancel_left hclosed⟩

theorem isTold_tuple {members : List Expr} (hmembers : ∀ e ∈ members, (expr e).IsTold) :
    (expr (.tuple members)).IsTold := by
  constructor
  intro item' rest rest' _ _ h
  obtain ⟨form, tail, tail', ht, ht', htail⟩ := exists_common_form h
  cases ht
  cases ht' with
  | tuple members' =>
    rw [List.append_assoc, List.append_assoc] at htail
    have hmember : ∀ e ∈ members, ∀ {e' : Expr} {rest rest' : List Char}, True → True →
        e.memberText ++ rest = e'.memberText ++ rest' → e = e' ∧ rest = rest' := by
      intro e he e' rest rest' _ _ heq
      rw [Expr.memberText, Expr.memberText, List.append_assoc, List.append_assoc] at heq
      obtain ⟨rfl, hcomma⟩ := (hmembers e he).expr_append_inj (follows_comma _) (follows_comma _)
        heq
      exact ⟨rfl, List.append_cancel_left hcomma⟩
    have hstop (e : Expr) (rest rest' : List Char) :
        e.memberText ++ rest ≠ ")".toList ++ rest' := by
      rw [Expr.memberText, List.append_assoc]
      exact (expr e).text_append_ne_close (by decide) _ _
    obtain ⟨rfl, hrest⟩ := Text.intercalate_append_inj (fun _ _ heq ↦ by cases heq) hstop
      (fun _ ↦ ⟨trivial, trivial⟩) hmember htail
    exact ⟨rfl, hrest⟩
  | entry key value =>
    refine absurd htail (tuple_append_ne_entry fun m hm part _ rest rest' hrest hrest' heq ↦ ?_)
    exact ((hmembers m hm).expr_append_inj hrest hrest' heq).2

theorem isTold_struct {fields : List Expr} (hfields : ∀ e ∈ fields, (expr e).IsTold) :
    (expr (.struct fields)).IsTold := by
  constructor
  intro item' rest rest' _ _ h
  obtain ⟨form, tail, tail', ht, ht', htail⟩ := exists_common_form h
  cases ht
  cases ht' with
  | struct fields' =>
    rw [List.append_assoc, List.append_assoc] at htail
    have hfield : ∀ e ∈ fields, ∀ {e' : Expr} {rest rest' : List Char},
        e.fieldText ++ rest = e'.fieldText ++ rest' → e = e' ∧ rest = rest' := by
      intro e he e' rest rest' heq
      rw [Expr.fieldText_append, Expr.fieldText_append] at heq
      obtain ⟨rfl, hclosed⟩ := (hfields e he).expr_append_inj (follows_paren _) (follows_paren _)
        (List.append_cancel_left heq)
      exact ⟨rfl, List.append_cancel_left (List.append_cancel_left hclosed)⟩
    obtain ⟨rfl, hrest⟩ := Text.flatMap_append_inj Expr.fieldText_append_ne_build hfield htail
    exact ⟨rfl, hrest⟩

theorem isTold_expr (e : Expr) : (expr e).IsTold := by
  induction e with
  | bool b =>
    constructor
    intro item' rest rest' _ _ h
    obtain ⟨form, tail, tail', ht, ht', htail⟩ := exists_common_form h
    cases ht
    cases ht'
    exact ⟨rfl, htail⟩
  | int n type => exact isTold_of_numeral? rfl
  | float x => exact isTold_of_numeral? rfl
  | string s =>
    constructor
    intro item' rest rest' _ _ h
    obtain ⟨form, tail, tail', ht, ht', htail⟩ := exists_common_form h
    cases ht with
    | emptyString =>
      cases ht'
      exact ⟨rfl, htail⟩
    | string =>
      cases ht'
      rw [List.append_assoc, List.append_assoc] at htail
      obtain ⟨rfl, hclosed⟩ := stringLiteral_append_inj htail
      exact ⟨rfl, List.append_cancel_left hclosed⟩
  | emptyVec element =>
    constructor
    intro item' rest rest' _ _ h
    obtain ⟨form, tail, tail', ht, ht', htail⟩ := exists_common_form h
    cases ht
    cases ht'
    rw [List.append_assoc, List.append_assoc] at htail
    obtain ⟨rfl, hclosed⟩ := TypeExpr.text_append_inj htail
    exact ⟨rfl, List.append_cancel_left hclosed⟩
  | vec items ih => exact isTold_vec ih
  | ownedValue inner ih =>
    constructor
    intro item' rest rest' _ _ h
    obtain ⟨form, tail, tail', ht, ht', htail⟩ := exists_common_form h
    cases ht
    cases ht' with
    | ownedValue inner' =>
      simp only [List.append_assoc] at htail
      obtain ⟨rfl, hclosed⟩ := ih.expr_append_inj (follows_paren _) (follows_paren _) htail
      exact ⟨rfl, List.append_cancel_left (List.append_cancel_left hclosed)⟩
  | emptyMap key value =>
    constructor
    intro item' rest rest' _ _ h
    obtain ⟨form, tail, tail', ht, ht', htail⟩ := exists_common_form h
    cases ht
    cases ht'
    simp only [List.append_assoc] at htail
    obtain ⟨rfl, hbehind⟩ := TypeExpr.text_append_inj htail
    obtain ⟨rfl, hclosed⟩ := TypeExpr.text_append_inj (List.append_cancel_left hbehind)
    exact ⟨rfl, List.append_cancel_left hclosed⟩
  | map key value entries ih => exact isTold_map ih
  | tuple members ih => exact isTold_tuple ih
  | default type =>
    constructor
    intro item' rest rest' _ _ h
    obtain ⟨form, tail, tail', ht, ht', htail⟩ := exists_common_form h
    cases ht
    cases ht' with
    | default type' =>
      rw [List.append_assoc, List.append_assoc] at htail
      have hnames : (TypeExpr.name type).text.toList ++ (" > :: default ()".toList ++ rest) =
          (TypeExpr.name type').text.toList ++ (" > :: default ()".toList ++ rest') := htail
      obtain ⟨heq, hclosed⟩ := TypeExpr.text_append_inj hnames
      cases heq
      exact ⟨rfl, List.append_cancel_left hclosed⟩
  | array element =>
    constructor
    intro item' rest rest' _ _ h
    obtain ⟨form, tail, tail', ht, ht', htail⟩ := exists_common_form h
    cases ht
    cases ht'
    rw [List.append_assoc, List.append_assoc] at htail
    obtain ⟨rfl, hclosed⟩ := signatureText_append_inj htail
    exact ⟨rfl, List.append_cancel_left hclosed⟩
  | dict key value =>
    constructor
    intro item' rest rest' _ _ h
    obtain ⟨form, tail, tail', ht, ht', htail⟩ := exists_common_form h
    cases ht
    cases ht'
    simp only [List.append_assoc] at htail
    obtain ⟨rfl, hbehind⟩ := signatureText_append_inj htail
    obtain ⟨rfl, hclosed⟩ := signatureText_append_inj (List.append_cancel_left hbehind)
    exact ⟨rfl, List.append_cancel_left hclosed⟩
  | struct fields ih => exact isTold_struct ih

end Item

namespace Expr

theorem text_append_inj {e e' : Expr} {rest rest' : List Char} (hrest : Follows rest)
    (hrest' : Follows rest') (h : e.text.toList ++ rest = e'.text.toList ++ rest') :
    e = e' ∧ rest = rest' :=
  (Item.isTold_expr e).expr_append_inj hrest hrest' h

theorem text_injective : Function.Injective text := by
  intro e e' h
  have htext : e.text.toList ++ (")".toList ++ []) = e'.text.toList ++ (")".toList ++ []) := by
    rw [h]
  exact (text_append_inj (follows_paren []) (follows_paren []) htext).1

end Expr

end Introspection.Code
