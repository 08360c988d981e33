import Introspection.Descriptor
import Introspection.Proofs.Text.Reading
import Mathlib.Logic.Function.Defs

/-!
# Texts of descriptors are read in one way

The text of a descriptor ends where its own containers are closed, whatever follows it. So no text
is the beginning of another one, and a list of descriptors is known from its joined texts. This
holds of all descriptors, legal or not.
-/

namespace Introspection

namespace Descriptor

theorem code_not_mem_marks (p : Primitive) : p.code ∉ ['a', '(', ')', '{', '}'] := by
  cases p <;> decide

/-- No type starts with a code that closes a container or opens an entry. -/
theorem codes_append_ne_cons (d : Descriptor) {c : Char} (hc : c ∈ [')', '{', '}'])
    (rest cs : List Char) : d.codes ++ rest ≠ c :: cs := by
  intro h
  cases d with
  | primitive p =>
    have hcode : p.code = c := (List.cons.inj h).1
    exact code_not_mem_marks p (hcode ▸ List.mem_cons_of_mem _ (List.mem_cons_of_mem _ hc))
  | array | dictionary | struct =>
    rw [← (List.cons.inj h).1] at hc
    revert hc
    decide

/-- The members of a struct end where its parenthesis stands. -/
theorem codesAll_append_inj {ds ds' : List Descriptor} {rest rest' : List Char}
    (hds : ∀ d ∈ ds, ∀ {d' : Descriptor} {rest rest' : List Char},
      d.codes ++ rest = d'.codes ++ rest' → d = d' ∧ rest = rest')
    (h : codesAll ds ++ ')' :: rest = codesAll ds' ++ ')' :: rest') : ds = ds' ∧ rest = rest' := by
  have hstop (d : Descriptor) (rest rest' : List Char) : d.codes ++ rest ≠ [')'] ++ rest' :=
    d.codes_append_ne_cons (by decide) rest rest'
  rw [codesAll_eq_flatMap, codesAll_eq_flatMap] at h
  exact Text.flatMap_append_inj hstop hds h

theorem eq_primitive_of_codes_append {p : Primitive} {d : Descriptor} {rest rest' : List Char}
    (h : p.code :: rest = d.codes ++ rest') : d = primitive p ∧ rest = rest' := by
  cases d with
  | primitive q =>
    obtain ⟨hcode, hrest⟩ := List.cons.inj h
    exact ⟨congrArg primitive (Primitive.code_injective hcode).symm, hrest⟩
  | array | dictionary | struct =>
    have hmark := code_not_mem_marks p
    rw [(List.cons.inj h).1] at hmark
    exact absurd (by decide) hmark

/-- What follows the text of a descriptor does not matter for where it ends. -/
theorem codes_append_inj {d d' : Descriptor} {rest rest' : List Char}
    (h : d.codes ++ rest = d'.codes ++ rest') : d = d' ∧ rest = rest' := by
  induction d generalizing d' rest rest' with
  | primitive p =>
    obtain ⟨hd, hrest⟩ := eq_primitive_of_codes_append h
    exact ⟨hd.symm, hrest⟩
  | array element ih =>
    cases d' with
    | primitive => cases (eq_primitive_of_codes_append h.symm).1
    | array element' =>
      obtain ⟨rfl, hrest⟩ := ih (List.cons.inj h).2
      exact ⟨rfl, hrest⟩
    | dictionary =>
      exact absurd (List.cons.inj h).2 (element.codes_append_ne_cons (by decide) _ _)
    | struct => cases (List.cons.inj h).1
  | dictionary key value ihk ihv =>
    cases d' with
    | primitive => cases (eq_primitive_of_codes_append h.symm).1
    | array element' =>
      exact absurd (List.cons.inj h).2.symm (element'.codes_append_ne_cons (by decide) _ _)
    | dictionary key' value' =>
      have hhalves : key.codes ++ (value.codes ++ '}' :: rest) =
          key'.codes ++ (value'.codes ++ '}' :: rest') := by
        simpa [codes] using h
      obtain ⟨rfl, hvalue⟩ := ihk hhalves
      obtain ⟨rfl, hclosed⟩ := ihv hvalue
      exact ⟨rfl, (List.cons.inj hclosed).2⟩
    | struct => cases (List.cons.inj h).1
  | struct members ih =>
    cases d' with
    | primitive => cases (eq_primitive_of_codes_append h.symm).1
    | array | dictionary => cases (List.cons.inj h).1
    | struct members' =>
      have hmembers : codesAll members ++ ')' :: rest = codesAll members' ++ ')' :: rest' := by
        simpa [codes] using h
      obtain ⟨rfl, hrest⟩ := codesAll_append_inj ih hmembers
      exact ⟨rfl, hrest⟩

/-- No text of a descriptor is the beginning of another one. -/
theorem eq_of_codes_isPrefix {d d' : Descriptor} (h : d.codes <+: d'.codes) : d = d' := by
  obtain ⟨rest, hrest⟩ := h
  have hcodes : d.codes ++ rest = d'.codes ++ [] := by rw [hrest, List.append_nil]
  exact (codes_append_inj hcodes).1

theorem text_injective : Function.Injective text := by
  intro d d' h
  have hcodes : d.codes = d'.codes := String.ofList_injective h
  exact eq_of_codes_isPrefix (hcodes ▸ List.prefix_rfl)

/-- A parenthesis behind both lists ends them like the members of a struct. -/
theorem codesAll_injective : Function.Injective codesAll := by
  intro ds ds' h
  have hclosed : codesAll ds ++ ')' :: [] = codesAll ds' ++ ')' :: [] := by rw [h]
  exact (codesAll_append_inj (fun _ _ ↦ codes_append_inj) hclosed).1

end Descriptor

end Introspection
