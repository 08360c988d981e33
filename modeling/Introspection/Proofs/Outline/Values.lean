import Introspection.Proofs.Outcome
import Introspection.Proofs.Outline.Lines
import Introspection.Proofs.Text.Escapes
import Introspection.Value

/-!
# Outlines of types and defaults

The outline of a value type and that of a default value take up one line. All texts in them are
quoted, and quoted texts have their line breaks escaped.
-/

namespace Introspection

/-! ## Quoted texts -/

namespace Text

theorem digitChar_ne_break {d : Nat} (h : d < 16) :
    Nat.digitChar d ≠ '\n' ∧ Nat.digitChar d ≠ '\r' := by
  revert d
  decide

theorem forall_mem_escapeNumber (c : Char) : ∀ d ∈ escapeNumber c, d ≠ '\n' ∧ d ≠ '\r' := by
  have hdigits : ∀ d ∈ Nat.toDigits 16 c.toNat, d ≠ '\n' ∧ d ≠ '\r' := by
    intro d hd
    obtain ⟨n, hn, rfl⟩ := exists_digit_of_mem_toDigits (by decide) hd
    exact digitChar_ne_break hn
  simp only [escapeNumber, List.forall_mem_cons, List.forall_mem_append]
  exact ⟨by decide, by decide, by decide, hdigits, by decide, List.forall_mem_nil _⟩

theorem forall_mem_escape (c : Char) : ∀ d ∈ escape '"' c, d ≠ '\n' ∧ d ≠ '\r' := by
  unfold escape
  split; · simp
  split; · simp
  split; · simp
  next hfeed =>
  split; · simp
  next hreturn =>
  split; · simp
  split; · simp
  split
  · exact forall_mem_escapeNumber c
  · exact List.forall_mem_singleton.2 ⟨hfeed, hreturn⟩

theorem isLine_quoted (s : String) : IsLine (quoted s) := by
  rw [IsLine, quoted, String.toList_ofList, List.forall_mem_cons, List.forall_mem_append,
    List.forall_mem_flatMap]
  exact ⟨by decide, fun c _ ↦ forall_mem_escape c, List.forall_mem_singleton.2 (by decide)⟩

end Text

open Text

theorem Primitive.isLine_name (p : Primitive) : IsLine p.name := by
  cases p <;> decide

/-! ## Types -/

namespace ValueType

theorem outlines_eq_map (types : List ValueType) : outlines types = types.map outline := by
  induction types with
  | nil => rfl
  | cons type types ih => rw [outlines, ih, List.map_cons]

theorem isLine_outline (type : ValueType) : IsLine type.outline := by
  induction type with
  | boolean | double | bytes | any => decide
  | integer width => exact .enclosed (by decide) width.isLine_name (by decide)
  | text kind => exact .enclosed (by decide) kind.isLine_name (by decide)
  | sequence element ih => exact .enclosed (by decide) ih (by decide)
  | mapping key value ihk ihv =>
    have htypes : IsLine ("Mapping(" ++ key.outline ++ ", " ++ value.outline) :=
      (IsLine.enclosed (by decide) ihk (by decide)).append ihv
    exact htypes.append (by decide)
  | tuple members ih =>
    have hmembers : IsLine (bracketed (outlines members)) := by
      rw [outlines_eq_map]
      exact .bracketed (List.forall_mem_map.2 ih)
    exact .enclosed (by decide) hmembers (by decide)
  | wire signature inner ih =>
    have hfields : IsLine ("signature: " ++ quoted signature ++ ", inner: " ++ inner.outline) :=
      (IsLine.enclosed (by decide) (isLine_quoted signature) (by decide)).append ih
    exact (by decide : IsLine "Wire ").append hfields.braced

end ValueType

/-! ## Defaults -/

namespace Value

theorem outlines_eq_map (values : List Value) : outlines values = values.map outline := by
  induction values with
  | nil => rfl
  | cons value values ih => rw [outlines, ih, List.map_cons]

theorem isLine_outline_wire {signature : String} {value : Value} (h : IsLine value.outline) :
    IsLine (wire signature value).outline := by
  have hfields : IsLine ("signature: " ++ quoted signature ++ ", value: " ++ value.outline) :=
    (IsLine.enclosed (by decide) (isLine_quoted signature) (by decide)).append h
  exact (by decide : IsLine "Wire ").append hfields.braced

theorem isLine_outline_of_default {type : ValueType} {value : Value}
    (h : type.default = .ok value) : IsLine value.outline := by
  induction type generalizing value with
  | boolean | integer | double | text | bytes | any =>
    cases h
    decide
  | sequence element =>
    cases h
    have hfields : IsLine ("element: " ++ element.outline ++ ", items: " ++ bracketed []) :=
      (IsLine.enclosed (by decide) element.isLine_outline (by decide)).append (by decide)
    exact (by decide : IsLine "Sequence ").append hfields.braced
  | mapping key value =>
    cases h
    have htypes : IsLine ("key: " ++ key.outline ++ ", value: " ++ value.outline) :=
      (IsLine.enclosed (by decide) key.isLine_outline (by decide)).append value.isLine_outline
    have hentries : IsLine (", entries: " ++ bracketed []) := by decide
    have hfields := htypes.append hentries
    rw [← String.append_assoc] at hfields
    exact (by decide : IsLine "Mapping ").append hfields.braced
  | tuple members ih =>
    rw [ValueType.default_tuple, bind_eq_ok_iff] at h
    obtain ⟨values, hvalues, h⟩ := h
    cases h
    have hmembers : IsLine (bracketed (outlines values)) := by
      rw [outlines_eq_map]
      refine .bracketed (List.forall_mem_map.2 fun value hvalue ↦ ?_)
      obtain ⟨type, htype, hdefault⟩ := exists_of_mapM_eq_ok hvalues hvalue
      exact ih type htype hdefault
    exact .enclosed (by decide) hmembers (by decide)
  | wire signature inner ih =>
    by_cases hbyte : inner = .integer .byte
    · subst hbyte
      cases h
    · rw [ValueType.default_wire hbyte, bind_eq_ok_iff] at h
      obtain ⟨value, hvalue, h⟩ := h
      cases h
      exact isLine_outline_wire (ih hvalue)

end Value

end Introspection
