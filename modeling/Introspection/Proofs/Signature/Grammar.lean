import Introspection.Signature.Reader

/-!
# The grammar of signatures

The sentences of a grammar are the written forms of the type lists that it admits. A type is
admitted on its own, or it fits below some open containers, which use up a part of the allowed
depth. The relaxed rules differ from the rules of the bus in the keys of dictionaries only; they
are the ones under which the first illegal character of a text can be told from what precedes it.
-/

namespace Introspection

/-! ## Nesting -/

namespace Descriptor

/-- The nodes that hold other types. -/
inductive Container
  | array
  | dictionary
  | struct
  deriving DecidableEq

mutual

/-- The largest number of counted containers on a path from the root to a leaf. -/
def nesting (counts : Container → Bool) : Descriptor → Nat
  | primitive _ => 0
  | array element => (counts .array).toNat + element.nesting counts
  | dictionary key value =>
    (counts .dictionary).toNat + max (key.nesting counts) (value.nesting counts)
  | struct members => (counts .struct).toNat + nestingAll counts members

def nestingAll (counts : Container → Bool) : List Descriptor → Nat
  | [] => 0
  | d :: ds => max (d.nesting counts) (nestingAll counts ds)

end

/-- Arrays and dictionaries count. -/
def arrayNesting : Descriptor → Nat :=
  nesting (· ≠ .struct)

/-- Structs and dictionaries count. -/
def structNesting : Descriptor → Nat :=
  nesting (· ≠ .array)

theorem nestingAll_le_iff {counts : Container → Bool} {ds : List Descriptor} {n : Nat} :
    nestingAll counts ds ≤ n ↔ ∀ d ∈ ds, d.nesting counts ≤ n := by
  induction ds with
  | nil => simp [nestingAll]
  | cons d ds ih => simp only [nestingAll, Nat.max_le, List.forall_mem_cons, ih]

@[simp] theorem arrayNesting_primitive (p : Primitive) : (primitive p).arrayNesting = 0 := by
  simp [arrayNesting, nesting]

@[simp] theorem arrayNesting_array (element : Descriptor) :
    (array element).arrayNesting = 1 + element.arrayNesting := by
  simp [arrayNesting, nesting]

@[simp] theorem arrayNesting_dictionary (key value : Descriptor) :
    (dictionary key value).arrayNesting = 1 + max key.arrayNesting value.arrayNesting := by
  simp [arrayNesting, nesting]

theorem arrayNesting_struct_le_iff {members : List Descriptor} {n : Nat} :
    (struct members).arrayNesting ≤ n ↔ ∀ d ∈ members, d.arrayNesting ≤ n := by
  simp [arrayNesting, nesting, nestingAll_le_iff]

@[simp] theorem structNesting_primitive (p : Primitive) : (primitive p).structNesting = 0 := by
  simp [structNesting, nesting]

@[simp] theorem structNesting_array (element : Descriptor) :
    (array element).structNesting = element.structNesting := by
  simp [structNesting, nesting]

@[simp] theorem structNesting_dictionary (key value : Descriptor) :
    (dictionary key value).structNesting = 1 + max key.structNesting value.structNesting := by
  simp [structNesting, nesting]

theorem structNesting_struct (members : List Descriptor) :
    (struct members).structNesting = nestingAll (· ≠ .array) members + 1 := by
  simp [structNesting, nesting, Nat.add_comm]

theorem structNesting_struct_le_iff {members : List Descriptor} {n : Nat} :
    (struct members).structNesting ≤ n + 1 ↔ ∀ d ∈ members, d.structNesting ≤ n := by
  rw [structNesting_struct, Nat.add_le_add_iff_right, nestingAll_le_iff]
  rfl

theorem structNesting_lt_of_mem {d : Descriptor} {members : List Descriptor} (h : d ∈ members) :
    d.structNesting < (struct members).structNesting := by
  rw [structNesting_struct, Nat.lt_succ_iff]
  exact nestingAll_le_iff.1 (Nat.le_refl _) d h

/-! ## Shape -/

/-- Every struct has a member, and every key of a dictionary is allowed. -/
inductive WellFormed (IsKey : Descriptor → Prop) : Descriptor → Prop
  | primitive (p : Primitive) : WellFormed IsKey (.primitive p)
  | array {element : Descriptor} : WellFormed IsKey element → WellFormed IsKey (.array element)
  | dictionary {key value : Descriptor} : IsKey key → WellFormed IsKey key →
      WellFormed IsKey value → WellFormed IsKey (.dictionary key value)
  | struct {members : List Descriptor} : members ≠ [] →
      (∀ d ∈ members, WellFormed IsKey d) → WellFormed IsKey (.struct members)

/-- The types that a signature on the bus may hold. -/
structure Legal (d : Descriptor) : Prop where
  wellFormed : d.WellFormed fun key ↦ ∃ p : Primitive, key = primitive p ∧ p ≠ .variant
  arrays : d.arrayNesting ≤ 32
  structs : d.structNesting ≤ 32

theorem isBasic_eq_true_iff {d : Descriptor} :
    d.isBasic = true ↔ ∃ p : Primitive, d = primitive p ∧ p ≠ .variant := by
  cases d <;> simp [isBasic, Primitive.isBasic]

end Descriptor

namespace Signature

open Descriptor

/-! ## Depth -/

/-- The arrays and dictionaries among some open containers. -/
def openArrays (frames : List Frame) : Nat :=
  frames.countP Frame.countsAsArray

/-- The structs and dictionaries among some open containers. -/
def openStructs (frames : List Frame) : Nat :=
  frames.countP Frame.countsAsStruct

@[simp] theorem openArrays_cons (frame : Frame) (frames : List Frame) :
    openArrays (frame :: frames) = frame.countsAsArray.toNat + openArrays frames := by
  cases frame <;> simp [openArrays, List.countP_cons, Frame.countsAsArray, Nat.add_comm]

@[simp] theorem openStructs_cons (frame : Frame) (frames : List Frame) :
    openStructs (frame :: frames) = frame.countsAsStruct.toNat + openStructs frames := by
  cases frame <;> simp [openStructs, List.countP_cons, Frame.countsAsStruct, Nat.add_comm]

attribute [simp] Frame.countsAsArray Frame.countsAsStruct

namespace Grammar

/-- The rules of the bus without the one on keys. -/
def relaxed : Grammar :=
  ⟨32, 32, fun _ ↦ true⟩

theorem isKey_relaxed (d : Descriptor) : relaxed.isKey d = true := rfl

/-- A type that a grammar allows on its own. -/
structure Admits (g : Grammar) (d : Descriptor) : Prop where
  wellFormed : d.WellFormed (g.isKey · = true)
  arrays : d.arrayNesting ≤ g.maxArrays
  structs : d.structNesting ≤ g.maxStructs

/-- A text that is some admitted types, written one after the other. -/
def Sentence (g : Grammar) (codes : List Char) : Prop :=
  ∃ types : List Descriptor, (∀ d ∈ types, g.Admits d) ∧ codesAll types = codes

/-- A text that some continuation turns into a sentence. -/
def Viable (g : Grammar) (codes : List Char) : Prop :=
  ∃ rest : List Char, g.Sentence (codes ++ rest)

/-- A type that a grammar allows below some open containers. -/
structure Fits (g : Grammar) (frames : List Frame) (d : Descriptor) : Prop where
  wellFormed : d.WellFormed (g.isKey · = true)
  arrays : openArrays frames + d.arrayNesting ≤ g.maxArrays
  structs : openStructs frames + d.structNesting ≤ g.maxStructs

variable {g : Grammar} {frames : List Frame}

/-- What fits depends on the depth that is used up only. -/
theorem fits_congr {frames' : List Frame} {d : Descriptor}
    (ha : openArrays frames = openArrays frames') (hs : openStructs frames = openStructs frames') :
    g.Fits frames d ↔ g.Fits frames' d := by
  constructor
  · intro h
    exact ⟨h.wellFormed, ha ▸ h.arrays, hs ▸ h.structs⟩
  · intro h
    exact ⟨h.wellFormed, ha.symm ▸ h.arrays, hs.symm ▸ h.structs⟩

theorem fits_nil_iff {d : Descriptor} : g.Fits [] d ↔ g.Admits d := by
  have ha : openArrays [] + d.arrayNesting = d.arrayNesting := Nat.zero_add _
  have hs : openStructs [] + d.structNesting = d.structNesting := Nat.zero_add _
  constructor
  · rintro ⟨hw, harrays, hstructs⟩
    exact ⟨hw, ha ▸ harrays, hs ▸ hstructs⟩
  · rintro ⟨hw, harrays, hstructs⟩
    exact ⟨hw, ha.symm ▸ harrays, hs.symm ▸ hstructs⟩

theorem fits_array_iff {element : Descriptor} :
    g.Fits frames (.array element) ↔ g.Fits (.array :: frames) element := by
  constructor
  · rintro ⟨hw, ha, hs⟩
    cases hw with
    | array hw =>
      simp only [arrayNesting_array, structNesting_array] at ha hs
      exact ⟨hw, by simp; omega, by simpa using hs⟩
  · rintro ⟨hw, ha, hs⟩
    simp at ha hs
    exact ⟨.array hw, by rw [arrayNesting_array]; omega, by rwa [structNesting_array]⟩

/-- Both halves of a dictionary are read below one frame that counts as an array and as a
struct. -/
theorem fits_dictionary_iff {key value : Descriptor} (start : Nat) :
    g.Fits frames (.dictionary key value) ↔ g.isKey key = true ∧
      g.Fits (.key start :: frames) key ∧ g.Fits (.value key :: frames) value := by
  constructor
  · rintro ⟨hw, ha, hs⟩
    cases hw with
    | dictionary hkey hk hv =>
      simp only [arrayNesting_dictionary, structNesting_dictionary] at ha hs
      refine ⟨hkey, ⟨hk, ?_, ?_⟩, ⟨hv, ?_, ?_⟩⟩ <;> simp <;> omega
  · rintro ⟨hkey, ⟨hk, hka, hks⟩, ⟨hv, hva, hvs⟩⟩
    simp at hka hks hva hvs
    refine ⟨.dictionary hkey hk hv, ?_, ?_⟩
    · rw [arrayNesting_dictionary]
      omega
    · rw [structNesting_dictionary]
      omega

/-- The members read so far do not matter for what fits into a struct. -/
theorem fits_struct_iff {members : List Descriptor} (read : List Descriptor) :
    g.Fits frames (.struct members) ↔
      members ≠ [] ∧ ∀ d ∈ members, g.Fits (.struct read :: frames) d := by
  constructor
  · rintro ⟨hw, ha, hs⟩
    cases hw with
    | struct hne hw =>
      refine ⟨hne, fun d hd ↦ ⟨hw d hd, ?_, ?_⟩⟩
      · have h := arrayNesting_struct_le_iff.1 (Nat.le_refl _) d hd
        simp
        omega
      · have h := structNesting_lt_of_mem hd
        simp
        omega
  · rintro ⟨hne, h⟩
    obtain ⟨d, hd⟩ := List.exists_mem_of_ne_nil _ hne
    -- A member shows that the struct itself finds room, whatever the depth of the others.
    have harrays : openArrays frames ≤ g.maxArrays := by
      have := (h d hd).arrays
      simp at this
      omega
    have hstructs : openStructs frames + 1 ≤ g.maxStructs := by
      have := (h d hd).structs
      simp at this
      omega
    refine ⟨.struct hne fun d hd ↦ (h d hd).wellFormed, ?_, ?_⟩
    · have hle : (struct members).arrayNesting ≤ g.maxArrays - openArrays frames := by
        apply arrayNesting_struct_le_iff.2
        intro d hd
        have := (h d hd).arrays
        simp at this
        omega
      omega
    · have hle : (struct members).structNesting ≤ g.maxStructs - (openStructs frames + 1) + 1 := by
        apply structNesting_struct_le_iff.2
        intro d hd
        have := (h d hd).structs
        simp at this
        omega
      omega

theorem admits_bus_iff {d : Descriptor} : bus.Admits d ↔ d.Legal := by
  have hkey : (bus.isKey · = true) = fun key ↦ ∃ p : Primitive, key = .primitive p ∧ p ≠ .variant :=
    funext fun _ ↦ propext isBasic_eq_true_iff
  constructor
  · rintro ⟨hw, ha, hs⟩
    exact ⟨hkey ▸ hw, ha, hs⟩
  · rintro ⟨hw, ha, hs⟩
    exact ⟨hkey ▸ hw, ha, hs⟩

end Grammar

end Signature

end Introspection
