import Mathlib.Data.List.Basic

/-!
# Texts that show where they end

Two texts written one behind the other are told apart if the first one shows where it ends: because
it is no beginning of another one, because of the characters that it is made of, or because of what
follows it. The same goes for the texts of a list, with separators or without.
-/

namespace Introspection.Text

/-! ## Single texts -/

/-- None of the texts is the beginning of another one. -/
def IsPrefixFree {α : Type} (write : α → List Char) : Prop :=
  ∀ a a', write a <+: write a' → a = a'

theorem IsPrefixFree.append_inj {α : Type} {write : α → List Char} (hwrite : IsPrefixFree write)
    {a a' : α} {rest rest' : List Char} (h : write a ++ rest = write a' ++ rest') :
    a = a' ∧ rest = rest' := by
  have ha : a = a' := by
    rcases List.prefix_or_prefix_of_prefix ⟨rest, rfl⟩ ⟨rest', h.symm⟩ with hbegins | hbegins
    · exact hwrite a a' hbegins
    · exact (hwrite a' a hbegins).symm
  subst ha
  exact ⟨rfl, List.append_cancel_left h⟩

/-- A run of characters of one kind ends at the first character of another kind. -/
theorem append_inj_of_forall {p : Char → Prop} {cs cs' rest rest' : List Char}
    (hcs : ∀ c ∈ cs, p c) (hcs' : ∀ c ∈ cs', p c) (hrest : ∀ c ∈ rest.head?, ¬ p c)
    (hrest' : ∀ c ∈ rest'.head?, ¬ p c) (h : cs ++ rest = cs' ++ rest') :
    cs = cs' ∧ rest = rest' := by
  induction cs generalizing cs' with
  | nil =>
    cases cs' with
    | nil => exact ⟨rfl, h⟩
    | cons c' cs' =>
      rw [List.nil_append, List.cons_append] at h
      exact absurd (hcs' c' List.mem_cons_self) (hrest c' (by rw [h, List.head?_cons]; rfl))
  | cons c cs ih =>
    cases cs' with
    | nil =>
      rw [List.nil_append, List.cons_append] at h
      exact absurd (hcs c List.mem_cons_self) (hrest' c (by rw [← h, List.head?_cons]; rfl))
    | cons c' cs' =>
      obtain ⟨rfl, htail⟩ := List.cons.inj h
      obtain ⟨rfl, hrest⟩ := ih (fun d hd ↦ hcs d (List.mem_cons_of_mem _ hd))
        (fun d hd ↦ hcs' d (List.mem_cons_of_mem _ hd)) htail
      exact ⟨rfl, hrest⟩

/-- Two texts with the same first break agree up to it and after it. -/
theorem append_cons_inj {c : Char} {cs cs' rest rest' : List Char} (hcs : c ∉ cs) (hcs' : c ∉ cs')
    (h : cs ++ c :: rest = cs' ++ c :: rest') : cs = cs' ∧ rest = rest' := by
  have hbreak (rest : List Char) : ∀ d ∈ (c :: rest).head?, ¬ d ≠ c := by
    intro d hd
    exact not_not.2 (Option.some.inj hd).symm
  obtain ⟨hfirst, hsecond⟩ := append_inj_of_forall (fun _ hd ↦ ne_of_mem_of_not_mem hd hcs)
    (fun _ hd ↦ ne_of_mem_of_not_mem hd hcs') (hbreak rest) (hbreak rest') h
  exact ⟨hfirst, (List.cons.inj hsecond).2⟩

/-! ## Lists of texts -/

section Lists

variable {α : Type} {write : α → List Char} {as as' : List α} {rest rest' : List Char}

/-- A list is known from its joined texts, if each text shows where it ends, and what follows the
list is not taken for one more text. -/
theorem flatMap_append_inj {stop : List Char}
    (hstop : ∀ a rest rest', write a ++ rest ≠ stop ++ rest')
    (has : ∀ a ∈ as, ∀ {a' : α} {rest rest' : List Char},
      write a ++ rest = write a' ++ rest' → a = a' ∧ rest = rest')
    (h : as.flatMap write ++ (stop ++ rest) = as'.flatMap write ++ (stop ++ rest')) :
    as = as' ∧ rest = rest' := by
  induction as generalizing as' with
  | nil =>
    cases as' with
    | nil => exact ⟨rfl, List.append_cancel_left h⟩
    | cons a' as' =>
      rw [List.flatMap_cons, List.append_assoc] at h
      exact absurd h.symm (hstop a' _ _)
  | cons a as ih =>
    cases as' with
    | nil =>
      rw [List.flatMap_cons, List.append_assoc] at h
      exact absurd h (hstop a _ _)
    | cons a' as' =>
      rw [List.flatMap_cons, List.flatMap_cons, List.append_assoc, List.append_assoc] at h
      obtain ⟨rfl, htail⟩ := has a List.mem_cons_self h
      obtain ⟨rfl, hrest⟩ := ih (fun a ha ↦ has a (List.mem_cons_of_mem _ ha)) htail
      exact ⟨rfl, hrest⟩

variable {separator : List Char}

/-- What stands behind the first text of a list. -/
theorem intercalate_cons_append (text : List Char) (texts : List (List Char)) :
    separator.intercalate (text :: texts) ++ rest =
      text ++ (if texts = [] then rest else separator ++ (separator.intercalate texts ++ rest)) := by
  cases texts with
  | nil => simp
  | cons next texts => simp [List.intercalate_cons_cons]

/-- With separators, a text need not show where it ends unless a separator or the end of the list
follows it. -/
theorem intercalate_append_inj {stop : List Char} {Follows : List Char → Prop}
    (hseparator : ∀ rest rest', separator ++ rest ≠ stop ++ rest')
    (hstop : ∀ a rest rest', write a ++ rest ≠ stop ++ rest')
    (hfollows : ∀ rest, Follows (separator ++ rest) ∧ Follows (stop ++ rest))
    (has : ∀ a ∈ as, ∀ {a' : α} {rest rest' : List Char}, Follows rest → Follows rest' →
      write a ++ rest = write a' ++ rest' → a = a' ∧ rest = rest')
    (h : separator.intercalate (as.map write) ++ (stop ++ rest) =
      separator.intercalate (as'.map write) ++ (stop ++ rest')) :
    as = as' ∧ rest = rest' := by
  have hbehind (texts : List (List Char)) (rest : List Char) :
      Follows (if texts = [] then stop ++ rest
        else separator ++ (separator.intercalate texts ++ (stop ++ rest))) := by
    split
    · exact (hfollows _).2
    · exact (hfollows _).1
  induction as generalizing as' with
  | nil =>
    cases as' with
    | nil => exact ⟨rfl, List.append_cancel_left h⟩
    | cons a' as' =>
      rw [List.map_cons, intercalate_cons_append] at h
      exact absurd h.symm (hstop a' _ _)
  | cons a as ih =>
    cases as' with
    | nil =>
      rw [List.map_cons, intercalate_cons_append] at h
      exact absurd h (hstop a _ _)
    | cons a' as' =>
      rw [List.map_cons, List.map_cons, intercalate_cons_append, intercalate_cons_append] at h
      obtain ⟨rfl, htail⟩ := has a List.mem_cons_self (hbehind _ _) (hbehind _ _) h
      simp only [List.map_eq_nil_iff] at htail
      by_cases hnil : as = []
      · by_cases hnil' : as' = []
        · rw [if_pos hnil, if_pos hnil'] at htail
          exact ⟨by rw [hnil, hnil'], List.append_cancel_left htail⟩
        · rw [if_pos hnil, if_neg hnil'] at htail
          exact absurd htail.symm (hseparator _ _)
      · by_cases hnil' : as' = []
        · rw [if_neg hnil, if_pos hnil'] at htail
          exact absurd htail (hseparator _ _)
        · rw [if_neg hnil, if_neg hnil'] at htail
          obtain ⟨rfl, hrest⟩ := ih (fun a ha ↦ has a (List.mem_cons_of_mem _ ha))
            (List.append_cancel_left htail)
          exact ⟨rfl, hrest⟩

end Lists

end Introspection.Text
