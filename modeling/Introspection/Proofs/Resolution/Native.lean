import Introspection.Proofs.Resolution.Positions
import Mathlib.Logic.Equiv.Defs

/-!
# Native types

Resolving in native mode loses nothing. The one shape that becomes a leaf is the array of bytes, and
no other type becomes that leaf, so a descriptor is read back from its type node by node. The types
that come up are the ones that carry no wrapper, keep at each leaf a primitive of the right kind,
and have no sequence of bytes.
-/

namespace Introspection

/-! ## The form of native types -/

namespace Primitive

/-- The primitives of whole numbers. -/
def integers : List Primitive :=
  [byte, int16, uint16, int32, uint32, int64, uint64]

/-- The primitives of texts, and of file descriptors, which are handled like texts. -/
def texts : List Primitive :=
  [string, objectPath, signature, unixFd]

theorem resolve_of_mem_integers {p : Primitive} (h : p ∈ integers) : p.resolve = .integer p := by
  revert h
  cases p <;> simp [integers, resolve]

theorem resolve_of_mem_texts {p : Primitive} (h : p ∈ texts) : p.resolve = .text p := by
  revert h
  cases p <;> simp [texts, resolve]

end Primitive

namespace ValueType

/-- What a node of a native type looks like. An array of bytes is a leaf and no sequence. -/
def IsNativeNode : ValueType → Prop
  | integer width => width ∈ Primitive.integers
  | text kind => kind ∈ Primitive.texts
  | sequence element => element ≠ integer .byte
  | wire _ _ => False
  | boolean | double | bytes | any | mapping _ _ | tuple _ => True

/-- A type with native nodes only. -/
def IsNative (type : ValueType) : Prop :=
  ∀ node, StandsIn [type] node → node.IsNativeNode

variable {type node : ValueType}

theorem standsIn_singleton_iff :
    StandsIn [type] node ↔ node = type ∨ ∃ part ∈ type.parts, StandsIn [part] node := by
  constructor
  · intro h
    induction h with
    | root hroot => exact .inl (List.eq_of_mem_singleton hroot)
    | part _ hpart ih =>
      apply Or.inr
      rcases ih with rfl | ⟨above, habove, h⟩
      · exact ⟨_, hpart, .root (List.mem_singleton_self _)⟩
      · exact ⟨above, habove, .part h hpart⟩
  · rintro (rfl | ⟨part, hpart, h⟩)
    · exact .root (List.mem_singleton_self _)
    · induction h with
      | root hroot =>
        rw [List.eq_of_mem_singleton hroot]
        exact .part (.root (List.mem_singleton_self _)) hpart
      | part _ hbelow ih => exact .part ih hbelow

theorem isNative_iff :
    type.IsNative ↔ type.IsNativeNode ∧ ∀ part ∈ type.parts, part.IsNative := by
  constructor
  · intro h
    refine ⟨h type (standsIn_singleton_iff.2 (.inl rfl)), fun part hpart node hnode ↦ ?_⟩
    exact h node (standsIn_singleton_iff.2 (.inr ⟨part, hpart, hnode⟩))
  · intro h node hnode
    rcases standsIn_singleton_iff.1 hnode with rfl | ⟨part, hpart, hnode⟩
    · exact h.1
    · exact h.2 part hpart node hnode

theorem isNative_of_parts_eq_nil (hparts : type.parts = []) (h : type.IsNativeNode) :
    type.IsNative := by
  apply isNative_iff.2
  rw [hparts]
  exact ⟨h, nofun⟩

theorem IsNative.isNativeNode (h : type.IsNative) : type.IsNativeNode :=
  (isNative_iff.1 h).1

theorem IsNative.of_mem_parts {part : ValueType} (h : type.IsNative) (hpart : part ∈ type.parts) :
    part.IsNative :=
  (isNative_iff.1 h).2 part hpart

/-! ## Reading a descriptor back -/

mutual

/-- The descriptor that a native type is resolved from. Wrappers are passed over. -/
def source : ValueType → Descriptor
  | boolean => .primitive .boolean
  | integer width => .primitive width
  | double => .primitive .double
  | text kind => .primitive kind
  | bytes => .array (.primitive .byte)
  | any => .primitive .variant
  | sequence element => .array element.source
  | mapping key value => .dictionary key.source value.source
  | tuple members => .struct (sourceAll members)
  | wire _ inner => inner.source

def sourceAll : List ValueType → List Descriptor
  | [] => []
  | type :: types => type.source :: sourceAll types

end

theorem sourceAll_eq_map (types : List ValueType) : sourceAll types = types.map source := by
  induction types with
  | nil => rfl
  | cons type types ih => rw [sourceAll, ih, List.map_cons]

/-- What is undone member by member is undone for the list. -/
theorem map_map_eq_self {α β : Type} {f : α → β} {g : β → α} {as : List α}
    (h : ∀ a ∈ as, g (f a) = a) : (as.map f).map g = as := by
  calc
    (as.map f).map g = as.map (g ∘ f) := List.map_map
    _ = as.map id := List.map_congr_left h
    _ = as := List.map_id as

theorem source_tuple (members : List ValueType) :
    (tuple members).source = .struct (members.map source) := by
  rw [source, sourceAll_eq_map]

/-- Resolving undoes reading back. -/
theorem native_source (h : type.IsNative) : type.source.native = type := by
  induction type with
  | boolean | double | bytes | any => rfl
  | integer width => exact Primitive.resolve_of_mem_integers h.isNativeNode
  | text kind => exact Primitive.resolve_of_mem_texts h.isNativeNode
  | sequence element ih =>
    have helement : element.source.native = element :=
      ih (h.of_mem_parts (List.mem_singleton_self _))
    have hbyte : element.source ≠ .primitive .byte := by
      intro hsource
      rw [hsource] at helement
      exact h.isNativeNode helement.symm
    rw [source, Descriptor.native_array hbyte, helement]
  | mapping key value ihk ihv =>
    have hkey : key.source.native = key := ihk (h.of_mem_parts List.mem_cons_self)
    have hvalue : value.source.native = value :=
      ihv (h.of_mem_parts (List.mem_cons_of_mem _ (List.mem_singleton_self _)))
    rw [source, Descriptor.native, hkey, hvalue]
  | tuple members ih =>
    rw [source_tuple, Descriptor.native_struct,
      map_map_eq_self fun type htype ↦ ih type htype (h.of_mem_parts htype)]
  | wire => exact absurd h.isNativeNode id

end ValueType

namespace Descriptor

open ValueType

/-- Reading back undoes resolving. -/
@[simp] theorem source_native (d : Descriptor) : d.native.source = d := by
  induction d with
  | primitive p => cases p <;> rfl
  | array element ih =>
    by_cases h : element = primitive .byte
    · subst h
      rfl
    · rw [native_array h, source, ih]
  | dictionary key value ihk ihv => rw [native, source, ihk, ihv]
  | struct members ih => rw [native_struct, source_tuple, map_map_eq_self ih]

/-- Resolving a descriptor gives native nodes only. -/
theorem isNative_native (d : Descriptor) : d.native.IsNative := by
  induction d with
  | primitive p =>
    apply isNative_of_parts_eq_nil
    · cases p <;> rfl
    · cases p <;>
        simp [native, Primitive.resolve, IsNativeNode, Primitive.integers, Primitive.texts]
  | array element ih =>
    by_cases h : element = primitive .byte
    · subst h
      exact isNative_of_parts_eq_nil rfl trivial
    · have hbyte : element.native ≠ .integer .byte := by
        intro hnative
        exact h (by rw [← source_native element, hnative, source])
      rw [native_array h]
      exact isNative_iff.2 ⟨hbyte, List.forall_mem_singleton.2 ih⟩
  | dictionary key value ihk ihv =>
    exact isNative_iff.2 ⟨trivial, List.forall_mem_cons.2 ⟨ihk, List.forall_mem_singleton.2 ihv⟩⟩
  | struct members ih =>
    rw [native_struct]
    exact isNative_iff.2 ⟨trivial, List.forall_mem_map.2 ih⟩

/-! ## Both directions -/

/-- Descriptors and native types correspond one to one. -/
def nativeEquiv : Descriptor ≃ {type : ValueType // type.IsNative} where
  toFun d := ⟨d.native, d.isNative_native⟩
  invFun type := type.1.source
  left_inv := source_native
  right_inv type := Subtype.ext (native_source type.2)

theorem resolve_native_eq_ok_iff {d : Descriptor} {type : ValueType} :
    d.resolve .native = .ok type ↔ d.native = type := by
  rw [resolve, Except.ok.injEq]

theorem exists_native_eq_iff {type : ValueType} :
    (∃ d : Descriptor, d.native = type) ↔ type.IsNative := by
  constructor
  · intro h
    obtain ⟨d, hd⟩ := h
    exact hd ▸ d.isNative_native
  · intro h
    exact ⟨type.source, native_source h⟩

/-- Native mode tells all descriptors apart and reaches exactly the native types, and a descriptor
is computed back from its type. -/
theorem resolve_native_invertible :
    Function.Injective (resolve .native) ∧
    (∀ type, (∃ d, resolve .native d = .ok type) ↔ type.IsNative) ∧
    (∀ d, ∃ type, resolve .native d = .ok type ∧ type.source = d) ∧
    ∀ type : ValueType, resolve .native type.source = .ok type ↔ type.IsNative := by
  refine ⟨?_, ?_, ?_, ?_⟩
  · intro d d' h
    have hnative : nativeEquiv d = nativeEquiv d' := Subtype.ext (Except.ok.inj h)
    exact nativeEquiv.injective hnative
  · intro type
    simp only [resolve_native_eq_ok_iff, exists_native_eq_iff]
  · intro d
    exact ⟨d.native, rfl, d.source_native⟩
  · intro type
    rw [resolve_native_eq_ok_iff]
    exact ⟨fun h ↦ exists_native_eq_iff.1 ⟨_, h⟩, native_source⟩

end Descriptor

end Introspection
