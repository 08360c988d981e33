import Introspection.Proofs.Resolution.Defaults
import Introspection.Proofs.Signature.Acceptance

/-!
# The nodes of a type on the wire

Every node of a type on the wire keeps the signature of the part of the descriptor that it was made
from. This part is legal wherever the whole is, so that its signature can be read on its own, and
its native type is what is left of the node without wrappers.
-/

namespace Introspection

/-! ## Parts of descriptors -/

namespace Descriptor

/-- The types directly below a type. -/
def parts : Descriptor → List Descriptor
  | primitive _ => []
  | array element => [element]
  | dictionary key value => [key, value]
  | struct members => members

variable {d part : Descriptor}

theorem WellFormed.of_mem_parts {IsKey : Descriptor → Prop} (h : d.WellFormed IsKey)
    (hpart : part ∈ d.parts) : part.WellFormed IsKey := by
  cases h with
  | primitive => cases hpart
  | array helement => exact List.eq_of_mem_singleton hpart ▸ helement
  | dictionary _ hkey hvalue =>
    rcases List.mem_pair.1 hpart with rfl | rfl
    · exact hkey
    · exact hvalue
  | struct _ hmembers => exact hmembers part hpart

theorem nesting_le_of_mem_parts (counts : Container → Bool) (hpart : part ∈ d.parts) :
    part.nesting counts ≤ d.nesting counts := by
  cases d with
  | primitive => cases hpart
  | array element =>
    rw [List.eq_of_mem_singleton hpart, nesting]
    exact Nat.le_add_left ..
  | dictionary key value =>
    rw [nesting]
    rcases List.mem_pair.1 hpart with rfl | rfl
    · exact (Nat.le_max_left ..).trans (Nat.le_add_left ..)
    · exact (Nat.le_max_right ..).trans (Nat.le_add_left ..)
  | struct members =>
    rw [nesting]
    exact (nestingAll_le_iff.1 (Nat.le_refl _) part hpart).trans (Nat.le_add_left ..)

theorem Legal.of_mem_parts (h : d.Legal) (hpart : part ∈ d.parts) : part.Legal where
  wellFormed := h.wellFormed.of_mem_parts hpart
  arrays := (nesting_le_of_mem_parts _ hpart).trans h.arrays
  structs := (nesting_le_of_mem_parts _ hpart).trans h.structs

theorem infix_codesAll {ds : List Descriptor} (hd : d ∈ ds) : d.codes <:+: codesAll ds := by
  rw [codesAll_eq_flatMap, List.flatMap]
  exact List.infix_of_mem_flatten (List.mem_map_of_mem hd)

theorem infix_codes_of_mem_parts (hpart : part ∈ d.parts) : part.codes <:+: d.codes := by
  cases d with
  | primitive => cases hpart
  | array element =>
    rw [List.eq_of_mem_singleton hpart, codes]
    exact (List.suffix_cons ..).isInfix
  | dictionary key value =>
    rw [codes]
    rcases List.mem_pair.1 hpart with rfl | rfl
    · exact ⟨['a', '{'], value.codes ++ ['}'], by simp⟩
    · exact ⟨'a' :: '{' :: key.codes, ['}'], by simp⟩
  | struct members =>
    rw [codes]
    exact (infix_codesAll hpart).trans ⟨['('], [')'], rfl⟩

end Descriptor

namespace Signature

open Descriptor

theorem utf8ByteSize_text_le {d : Descriptor} {s : String} (h : d.codes <:+: s.toList) :
    d.text.utf8ByteSize ≤ s.utf8ByteSize := by
  rw [← String.utf8Len_toList, ← String.utf8Len_toList, toList_text]
  exact String.utf8Len_le_of_infix h

/-- A part of a type is read from its own text if the type is. -/
theorem parseSingle_text_of_mem_parts {d part : Descriptor} (h : parseSingle d.text = .ok d)
    (hpart : part ∈ d.parts) : parseSingle part.text = .ok part := by
  obtain ⟨hlen, hlegal, -⟩ := parseSingle_eq_ok_iff.1 h
  have hinfix : part.codes <:+: d.text.toList :=
    d.toList_text ▸ infix_codes_of_mem_parts hpart
  exact parseSingle_eq_ok_iff.2
    ⟨(utf8ByteSize_text_le hinfix).trans hlen, hlegal.of_mem_parts hpart, rfl⟩

/-- So is a type from its text if it is one of those in a signature. -/
theorem parseSingle_text_of_mem {signature : String} {types : List Descriptor} {d : Descriptor}
    (h : parse signature = .ok types) (hd : d ∈ types) : parseSingle d.text = .ok d := by
  obtain ⟨hlen, hlegal, hjoin⟩ := parse_eq_ok_iff.1 h
  have hinfix : d.codes <:+: signature.toList := join_text_eq_iff.1 hjoin ▸ infix_codesAll hd
  exact parseSingle_eq_ok_iff.2 ⟨(utf8ByteSize_text_le hinfix).trans hlen, hlegal d hd, rfl⟩

end Signature

/-! ## Nodes of types -/

namespace ValueType

/-- The types directly below a type. A wrapper is no node of its own. -/
def parts : ValueType → List ValueType
  | sequence element => [element]
  | mapping key value => [key, value]
  | tuple members => members
  | wire _ inner => inner.parts
  | boolean | integer _ | double | text _ | bytes | any => []

/-- A type stands somewhere in one of the given types. -/
inductive StandsIn (roots : List ValueType) : ValueType → Prop
  | root {type : ValueType} : type ∈ roots → StandsIn roots type
  | part {type part : ValueType} : StandsIn roots type → part ∈ type.parts → StandsIn roots part

/-- The default of a type has the signature of the type. -/
theorem signature?_of_default {type : ValueType} {value : Value} (h : type.default = .ok value) :
    value.signature? = type.signature? := by
  cases type with
  | tuple members =>
    rw [default_tuple] at h
    obtain ⟨values, -, hvalue⟩ := bind_eq_ok_iff.1 h
    cases hvalue
    rfl
  | wire signature inner =>
    by_cases hbyte : inner = .integer .byte
    · subst hbyte
      cases h
    · rw [default_wire hbyte] at h
      obtain ⟨value', -, hvalue⟩ := bind_eq_ok_iff.1 h
      cases hvalue
      rfl
  | _ =>
    cases h
    rfl

end ValueType

namespace Descriptor

/-- The nodes below a node are made from the parts of its descriptor. An array of bytes has no
node for its bytes. -/
theorem exists_of_mem_parts_wired {d : Descriptor} {type : ValueType} (h : type ∈ d.wired.parts) :
    ∃ part ∈ d.parts, part.wired = type := by
  cases d with
  | primitive p => cases p <;> cases h
  | array element =>
    by_cases hbyte : element = primitive .byte
    · subst hbyte
      cases h
    · rw [wired_array hbyte] at h
      exact ⟨element, List.mem_singleton_self _, (List.eq_of_mem_singleton h).symm⟩
  | dictionary key value =>
    rcases List.mem_pair.1 h with rfl | rfl
    · exact ⟨key, List.mem_cons_self, rfl⟩
    · exact ⟨value, List.mem_pair.2 (.inr rfl), rfl⟩
  | struct members =>
    rw [wired_struct] at h
    exact List.mem_map.1 h

/-- Every node of the types on the wire is made from a descriptor, of which holds what holds of the
given ones and passes to parts. -/
theorem exists_wired_eq_of_standsIn {P : Descriptor → Prop} {ds : List Descriptor}
    {type : ValueType} (hds : ∀ d ∈ ds, P d) (hparts : ∀ d, P d → ∀ part ∈ d.parts, P part)
    (h : ValueType.StandsIn (ds.map wired) type) : ∃ d, P d ∧ d.wired = type := by
  induction h with
  | root htype =>
    obtain ⟨d, hd, rfl⟩ := List.mem_map.1 htype
    exact ⟨d, hds d hd, rfl⟩
  | part _ hpart ih =>
    obtain ⟨d, hd, rfl⟩ := ih
    obtain ⟨part, hmem, rfl⟩ := exists_of_mem_parts_wired hpart
    exact ⟨part, hparts d hd part hmem, rfl⟩

/-- Every node of the types on the wire is made from a descriptor that is read from its text. -/
theorem exists_of_standsIn {ds : List Descriptor} {type : ValueType}
    (hds : ∀ d ∈ ds, Signature.parseSingle d.text = .ok d)
    (h : ValueType.StandsIn (ds.map wired) type) :
    ∃ d, Signature.parseSingle d.text = .ok d ∧ d.wired = type :=
  exists_wired_eq_of_standsIn hds
    (fun _ hparse _ hpart ↦ Signature.parseSingle_text_of_mem_parts hparse hpart) h

end Descriptor

/-! ## Signatures on the wire -/

namespace Signature

variable {signature : String} {types : List ValueType}

theorem exists_eq_map_wired (h : resolve .wire signature = .ok types) :
    ∃ ds, parse signature = .ok ds ∧ types = ds.map Descriptor.wired := by
  obtain ⟨ds, hparse, hds⟩ := resolve_eq_ok_iff.1 h
  have hwired : List.Forall₂ (fun d type ↦ Descriptor.wired d = type) ds types :=
    (mapM_eq_ok_iff.1 hds).imp fun _ _ hd ↦ (Descriptor.resolve_wire_eq_ok_iff.1 hd).2
  exact ⟨ds, hparse, (map_eq_of_forall₂ hwired).symm⟩

theorem map_signature?_of_forall₂_default {values : List Value}
    (h : List.Forall₂ (fun type value ↦ type.default = .ok value) types values) :
    values.map Value.signature? = types.map ValueType.signature? := by
  have hsignatures : List.Forall₂ (fun type text ↦ type.signature? = text) types
      (values.map Value.signature?) := by
    apply List.forall₂_map_right_iff.2
    exact h.imp fun _ _ hvalue ↦ (ValueType.signature?_of_default hvalue).symm
  exact (map_eq_of_forall₂ hsignatures).symm

/-- The signatures of the types make up the signature that they were resolved from, and every
node keeps the exact signature of what it stands for: read on its own, it gives a descriptor whose
native type is the node without its wrappers. The defaults have the signatures of the types. -/
theorem resolve_wire_keeps_signatures (h : resolve .wire signature = .ok types) :
    (∃ texts, types.map ValueType.signature? = texts.map some ∧ String.join texts = signature) ∧
    (∀ type, ValueType.StandsIn types type →
      ∃ text inner, type = .wire text inner ∧ (∀ text' inner', inner ≠ .wire text' inner') ∧
        ∃ d, parseSingle text = .ok d ∧ d.resolve .native = .ok inner.erase) ∧
    ∃ values, defaults .wire signature = .ok values ∧
      values.map Value.signature? = types.map ValueType.signature? := by
  obtain ⟨values, hvalues, hdefaults⟩ := exists_defaults_of_resolve h
  have hsignatures := map_signature?_of_forall₂_default hdefaults
  obtain ⟨ds, hparse, rfl⟩ := exists_eq_map_wired h
  have hjoin : String.join (ds.map Descriptor.text) = signature := (parse_eq_ok_iff.1 hparse).2.2
  refine ⟨⟨ds.map Descriptor.text, ?_, hjoin⟩, ?_, values, hvalues, hsignatures⟩
  · simp [Function.comp_def]
  · intro type htype
    obtain ⟨d, hd, rfl⟩ :=
      Descriptor.exists_of_standsIn (fun d hd ↦ parseSingle_text_of_mem hparse hd) htype
    obtain ⟨inner, hwired, hinner⟩ := d.exists_wired_eq
    have herase : inner.erase = d.native := by
      rw [← d.erase_wired, hwired, ValueType.erase]
    exact ⟨d.text, inner, hwired, hinner, d, hd, herase ▸ rfl⟩

/-- A dictionary with a byte in its values and another one deeper down, and a struct. -/
def stock : List Descriptor :=
  [.dictionary (.primitive .string)
      (.struct [.primitive .byte, .array (.struct [.primitive .byte, .primitive .variant])]),
    .struct [.primitive .uint32, .primitive .boolean]]

theorem resolve_wire_keeps_signatures_stock :
    resolve .wire "a\x7bs(ya(yv))\x7d(ub)" = .ok (stock.map Descriptor.wired) ∧
      ValueType.StandsIn (stock.map Descriptor.wired)
        (.wire "(yv)" (.tuple [.wire "y" (.integer .byte), .wire "v" .any])) ∧
      (∃ d, parseSingle "(yv)" = .ok d ∧ d.resolve .native = .ok (.tuple [.integer .byte, .any])) ∧
      ∃ values, defaults .wire "a\x7bs(ya(yv))\x7d(ub)" = .ok values ∧
        values.map Value.signature? = [some "a\x7bs(ya(yv))\x7d", some "(ub)"] := by
  have h : resolve .wire "a\x7bs(ya(yv))\x7d(ub)" = .ok (stock.map Descriptor.wired) := rfl
  have hrow : ValueType.StandsIn (stock.map Descriptor.wired)
      (.wire "(yv)" (.tuple [.wire "y" (.integer .byte), .wire "v" .any])) := by
    have hroot : ValueType.StandsIn (stock.map Descriptor.wired) _ := .root List.mem_cons_self
    have hentry := hroot.part (List.mem_cons_of_mem _ List.mem_cons_self)
    have hrows := hentry.part (List.mem_cons_of_mem _ List.mem_cons_self)
    exact hrows.part List.mem_cons_self
  obtain ⟨-, hnodes, values, hvalues, hsignatures⟩ := resolve_wire_keeps_signatures h
  obtain ⟨text, inner, heq, -, hread⟩ := hnodes _ hrow
  cases heq
  exact ⟨h, hrow, hread, values, hvalues, hsignatures⟩

end Signature

end Introspection
