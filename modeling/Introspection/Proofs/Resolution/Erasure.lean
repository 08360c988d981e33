import Introspection.Proofs.Resolution.Wire
import Introspection.Value

/-!
# From the wire to native types

Erasing the wrappers of a type or a value on the wire gives the type or the value of native mode.
A value keeps the types of what its containers hold, so that these types are erased along with it.
-/

namespace Introspection

@[simp] theorem Primitive.erase_resolve (p : Primitive) : p.resolve.erase = p.resolve := by
  cases p <;> rfl

/-! ## Defaults of types -/

namespace ValueType

/-- The default of a type without its wrappers is the default of the type without its wrappers. -/
theorem default_erase {type : ValueType} {value : Value} (h : type.default = .ok value) :
    type.erase.default = .ok value.erase := by
  induction type generalizing value with
  | boolean | integer | double | text | bytes | any | sequence | mapping =>
    cases h
    rfl
  | tuple members ih =>
    rw [default_tuple] at h
    obtain ⟨values, hvalues, hvalue⟩ := bind_eq_ok_iff.1 h
    cases hvalue
    have herased : (members.map erase).mapM default = .ok (values.map Value.erase) := by
      rw [List.mapM_map]
      exact mapM_eq_ok_map_of_mapM_eq_ok hvalues fun type htype value hvalue ↦ ih type htype hvalue
    rw [erase, eraseAll_eq_map, default_tuple, herased, Value.erase, Value.eraseAll_eq_map]
    rfl
  | wire signature inner ih =>
    by_cases hbyte : inner = .integer .byte
    · subst hbyte
      cases h
    · rw [default_wire hbyte] at h
      obtain ⟨value', hvalue', hvalue⟩ := bind_eq_ok_iff.1 h
      cases hvalue
      rw [erase, Value.erase]
      exact ih hvalue'

theorem exists_default_tuple {members : List ValueType}
    (h : ∀ type ∈ members, ∃ value, type.default = .ok value) :
    ∃ value, (tuple members).default = .ok value := by
  obtain ⟨values, hvalues⟩ := exists_mapM_eq_ok h
  rw [default_tuple, hvalues]
  exact ⟨_, rfl⟩

end ValueType

namespace Descriptor

/-! ## Types of descriptors -/

@[simp] theorem erase_wired (d : Descriptor) : d.wired.erase = d.native := by
  induction d with
  | primitive p => simp [wired, native, ValueType.erase]
  | array element ih =>
    by_cases h : element = primitive .byte
    · subst h
      rfl
    · rw [wired_array h, native_array h, ValueType.erase, ValueType.erase, ih]
  | dictionary key value ihk ihv =>
    rw [wired, native, ValueType.erase, ValueType.erase, ihk, ihv]
  | struct members ih =>
    have hmembers : (members.map wired).map ValueType.erase = members.map native := by
      rw [List.map_map]
      exact List.map_congr_left ih
    rw [wired_struct, native_struct, ValueType.erase, ValueType.erase, ValueType.eraseAll_eq_map,
      hmembers]

/-! ## Defaults of descriptors -/

theorem exists_default_native (d : Descriptor) : ∃ value, d.native.default = .ok value := by
  induction d with
  | primitive p => cases p <;> exact ⟨_, rfl⟩
  | array element =>
    by_cases h : element = primitive .byte
    · subst h
      exact ⟨_, rfl⟩
    · rw [native_array h]
      exact ⟨_, rfl⟩
  | dictionary key value => exact ⟨_, rfl⟩
  | struct members ih =>
    rw [native_struct]
    exact ValueType.exists_default_tuple (List.forall_mem_map.2 ih)

theorem exists_default_wired {d : Descriptor} (h : ¬ d.HasLooseByte) :
    ∃ value, d.wired.default = .ok value := by
  induction d with
  | primitive p =>
    have hbyte : p ≠ .byte := by simpa using h
    cases p with
    | byte => exact absurd rfl hbyte
    | _ => exact ⟨_, rfl⟩
  | array element =>
    by_cases hbyte : element = primitive .byte
    · subst hbyte
      exact ⟨_, rfl⟩
    · rw [wired_array hbyte]
      exact ⟨_, rfl⟩
  | dictionary key value => exact ⟨_, rfl⟩
  | struct members ih =>
    have hmembers : ∀ type ∈ members.map wired, ∃ value, type.default = .ok value :=
      List.forall_mem_map.2 fun d hd ↦ ih d hd fun hloose ↦ h (.member hd hloose)
    obtain ⟨value, hvalue⟩ := ValueType.exists_default_tuple hmembers
    rw [wired_struct, ValueType.default_wire_tuple, hvalue]
    exact ⟨_, rfl⟩

/-! ## Both modes -/

/-- A type that a descriptor resolves to has a default, in either mode. -/
theorem exists_default_of_resolve {d : Descriptor} {mode : Mode} {type : ValueType}
    (h : d.resolve mode = .ok type) : ∃ value, type.default = .ok value := by
  cases mode with
  | native =>
    cases h
    exact d.exists_default_native
  | wire =>
    obtain ⟨hloose, rfl⟩ := resolve_wire_eq_ok_iff.1 h
    exact exists_default_wired hloose

theorem resolve_native_of_resolve_wire {d : Descriptor} {type : ValueType}
    (h : d.resolve .wire = .ok type) : d.resolve .native = .ok type.erase := by
  obtain ⟨-, rfl⟩ := resolve_wire_eq_ok_iff.1 h
  rw [erase_wired]
  rfl

/-- Whatever is resolved on the wire has, once its wrappers are erased, its native type and the
native default. -/
theorem erase_resolve_wire {d : Descriptor} {type : ValueType} (h : d.resolve .wire = .ok type) :
    d.resolve .native = .ok type.erase ∧
      ∃ value, type.default = .ok value ∧ type.erase.default = .ok value.erase := by
  obtain ⟨value, hvalue⟩ := exists_default_of_resolve h
  exact ⟨resolve_native_of_resolve_wire h, value, hvalue, ValueType.default_erase hvalue⟩

/-- A struct with bytes in arrays only. -/
def sampling : Descriptor :=
  .struct
    [.array (.primitive .byte), .dictionary (.primitive .string) (.primitive .variant),
      .struct [.primitive .double, .array (.struct [.primitive .byte])]]

theorem erase_resolve_wire_sampling :
    sampling.resolve .wire = .ok sampling.wired ∧
      sampling.resolve .native = .ok (.tuple
        [.bytes, .mapping (.text .string) .any,
          .tuple [.double, .sequence (.tuple [.integer .byte])]]) ∧
      ∃ value, sampling.wired.default = .ok value ∧
        value.erase = .tuple
          [.bytes [], .mapping (.text .string) .any [],
            .tuple [.double .zero, .sequence (.tuple [.integer .byte]) []]] := by
  have hresolve : sampling.resolve .wire = .ok sampling.wired := rfl
  obtain ⟨hnative, value, hvalue, herased⟩ := erase_resolve_wire hresolve
  exact ⟨hresolve, hnative, value, hvalue, (Except.ok.inj herased).symm⟩

end Descriptor

end Introspection
