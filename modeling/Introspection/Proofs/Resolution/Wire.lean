import Introspection.Proofs.Outcome
import Introspection.Resolution

/-!
# Resolving on the wire

Resolving in wire mode wraps every node of a type and can be refused for one reason only: a byte
that no array and no dictionary stands around. Such a byte is reached from the root through
structs alone, so the containers around a node matter only as far as they decide this.
-/

namespace Introspection.Descriptor

/-! ## Loose bytes -/

/-- A byte is reached from the root through structs only. -/
inductive HasLooseByte : Descriptor → Prop
  | byte : HasLooseByte (.primitive .byte)
  | member {d : Descriptor} {members : List Descriptor} :
      d ∈ members → HasLooseByte d → HasLooseByte (.struct members)

@[simp] theorem hasLooseByte_primitive_iff {p : Primitive} :
    (primitive p).HasLooseByte ↔ p = .byte := by
  constructor
  · rintro ⟨⟩
    rfl
  · rintro rfl
    exact .byte

@[simp] theorem not_hasLooseByte_array (element : Descriptor) :
    ¬ (array element).HasLooseByte := nofun

@[simp] theorem not_hasLooseByte_dictionary (key value : Descriptor) :
    ¬ (dictionary key value).HasLooseByte := nofun

@[simp] theorem hasLooseByte_struct_iff {members : List Descriptor} :
    (struct members).HasLooseByte ↔ ∃ d ∈ members, d.HasLooseByte := by
  constructor
  · rintro (_ | ⟨hd, h⟩)
    exact ⟨_, hd, h⟩
  · rintro ⟨d, hd, h⟩
    exact .member hd h

mutual

def decideLooseByte : (d : Descriptor) → Decidable d.HasLooseByte
  | primitive _ => decidable_of_iff _ hasLooseByte_primitive_iff.symm
  | array element => isFalse (not_hasLooseByte_array element)
  | dictionary key value => isFalse (not_hasLooseByte_dictionary key value)
  | struct members =>
    have := decideLooseByteAmong members
    decidable_of_iff _ hasLooseByte_struct_iff.symm

def decideLooseByteAmong : (ds : List Descriptor) → Decidable (∃ d ∈ ds, d.HasLooseByte)
  | [] => isFalse (by simp)
  | d :: ds =>
    have := decideLooseByte d
    have := decideLooseByteAmong ds
    decidable_of_iff (d.HasLooseByte ∨ ∃ d ∈ ds, d.HasLooseByte) (by simp)

end

instance : DecidablePred HasLooseByte := decideLooseByte

/-! ## The wrapped type -/

mutual

/-- The type of a descriptor with a wrapper around every node. -/
def wired : Descriptor → ValueType
  | d@(primitive p) => .wire d.text p.resolve
  | d@(array (primitive .byte)) => .wire d.text .bytes
  | d@(array element) => .wire d.text (.sequence element.wired)
  | d@(dictionary key value) => .wire d.text (.mapping key.wired value.wired)
  | d@(struct members) => .wire d.text (.tuple (wiredAll members))

def wiredAll : List Descriptor → List ValueType
  | [] => []
  | d :: ds => d.wired :: wiredAll ds

end

theorem wiredAll_eq_map (ds : List Descriptor) : wiredAll ds = ds.map wired := by
  induction ds with
  | nil => rfl
  | cons d ds ih => rw [wiredAll, ih, List.map_cons]

theorem wired_struct (members : List Descriptor) :
    (struct members).wired = .wire (struct members).text (.tuple (members.map wired)) := by
  rw [wired, wiredAll_eq_map]

theorem wired_array {element : Descriptor} (h : element ≠ primitive .byte) :
    (array element).wired = .wire (array element).text (.sequence element.wired) := by
  rw [wired]
  exact h

/-- A node has exactly one wrapper, which keeps the signature of its descriptor. -/
theorem exists_wired_eq (d : Descriptor) :
    ∃ inner, d.wired = .wire d.text inner ∧ ∀ text inner', inner ≠ .wire text inner' := by
  cases d with
  | primitive p =>
    refine ⟨p.resolve, rfl, ?_⟩
    cases p <;> exact nofun
  | array element =>
    by_cases h : element = primitive .byte
    · subst h
      exact ⟨.bytes, rfl, nofun⟩
    · exact ⟨.sequence element.wired, wired_array h, nofun⟩
  | dictionary key value => exact ⟨.mapping key.wired value.wired, rfl, nofun⟩
  | struct members => exact ⟨.tuple (members.map wired), wired_struct members, nofun⟩

@[simp] theorem signature?_wired (d : Descriptor) : d.wired.signature? = some d.text := by
  obtain ⟨inner, hd, -⟩ := d.exists_wired_eq
  rw [hd, ValueType.signature?]

/-- Inside an array or a dictionary everything has a type on the wire. -/
theorem wire_true (d : Descriptor) : d.wire true = .ok d.wired := by
  induction d with
  | primitive p => simp [wire, wired]
  | array element ih =>
    by_cases h : element = primitive .byte
    · subst h
      rfl
    · rw [wire_array h, wired_array h, ih]
      rfl
  | dictionary key value ihk ihv =>
    rw [wire, ihk, ihv]
    rfl
  | struct members ih =>
    rw [wire_struct, wired_struct, mapM_eq_ok_map ih]
    rfl

theorem wire_false (d : Descriptor) :
    d.wire false = if d.HasLooseByte then .error (.noDefault "y") else .ok d.wired := by
  induction d with
  | primitive p =>
    by_cases h : p = .byte
    · subst h
      rfl
    · simp [wire, wired, h]
  | array element ih =>
    rw [if_neg (not_hasLooseByte_array element)]
    by_cases h : element = primitive .byte
    · subst h
      rfl
    · rw [wire_array h, wired_array h, wire_true]
      rfl
  | dictionary key value =>
    rw [if_neg (not_hasLooseByte_dictionary key value), wire, wire_true, wire_true]
    rfl
  | struct members ih =>
    rw [wire_struct, wired_struct]
    split
    · next h =>
      -- Whichever member is refused first, the error names the byte and not the member.
      have hmembers : members.mapM (wire false) = .error (.noDefault "y") := by
        apply mapM_eq_error
        · intro d hd
          rw [ih d hd]
          split
          · exact .inl rfl
          · exact .inr ⟨_, rfl⟩
        · obtain ⟨d, hd, hloose⟩ := hasLooseByte_struct_iff.1 h
          exact ⟨d, hd, by rw [ih d hd, if_pos hloose]⟩
      rw [hmembers, error_bind]
    · next h =>
      have hmembers : members.mapM (wire false) = .ok (members.map wired) := by
        apply mapM_eq_ok_map
        intro d hd
        rw [ih d hd, if_neg fun hloose ↦ h (.member hd hloose)]
      rw [hmembers]
      rfl

/-! ## Both modes -/

theorem resolve_wire_eq_ok_iff {d : Descriptor} {type : ValueType} :
    d.resolve .wire = .ok type ↔ ¬ d.HasLooseByte ∧ d.wired = type := by
  rw [resolve, wire_false]
  split
  · next h => simp [h]
  · next h => simp [h]

theorem resolve_wire_eq_error_iff {d : Descriptor} {error : Signature.Error} :
    d.resolve .wire = .error error ↔ d.HasLooseByte ∧ error = .noDefault "y" := by
  rw [resolve, wire_false]
  split
  · next h => simp [h, eq_comm]
  · next h => simp [h]

theorem reports_resolve (mode : Mode) (d : Descriptor) :
    Reports (d.resolve mode) (if mode = .wire ∧ d.HasLooseByte then [.noDefault "y"] else []) := by
  cases mode with
  | native => exact .ok d.native
  | wire =>
    rw [resolve, wire_false]
    by_cases h : d.HasLooseByte
    · simpa [h] using Reports.error _ []
    · simpa [h] using Reports.ok _

end Introspection.Descriptor
