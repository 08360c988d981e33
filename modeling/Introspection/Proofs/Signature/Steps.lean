import Introspection.Proofs.Signature.Grammar
import Mathlib.Data.String.Basic

/-!
# Reading a character

What is known after some characters determines these characters: the complete types, the open
containers with what they hold, and the dictionary that lacks its closing brace are written back
to exactly what was read. From there a character can do three things only. It opens a container,
or it completes a type, or it is refused on the spot.
-/

open String (utf8Len)

namespace Introspection.Signature

open Descriptor

/-! ## What has been read -/

/-- The part of a container that stands before the type it waits for. -/
def Frame.written : Frame → List Char
  | array => ['a']
  | key _ => ['a', '{']
  | value held => 'a' :: '{' :: held.codes
  | struct members => '(' :: codesAll members.reverse

/-- Open containers from the outermost one to the innermost one. -/
def writtenFrames : List Frame → List Char
  | [] => []
  | frame :: frames => writtenFrames frames ++ frame.written

/-- A dictionary up to its closing brace. -/
def writtenEntry : Option (Descriptor × Descriptor) → List Char
  | none => []
  | some (key, value) => 'a' :: '{' :: (key.codes ++ value.codes)

def Progress.written (p : Progress) : List Char :=
  codesAll p.types.reverse ++ writtenFrames p.frames ++ writtenEntry p.entry

/-- What stands in the open containers fits there, and each key is remembered at its place. The
text before the outermost container is given. -/
inductive Stacked (g : Grammar) (before : List Char) : List Frame → Prop
  | nil : Stacked g before []
  | array {frames : List Frame} : Stacked g before frames → openArrays frames < g.maxArrays →
      Stacked g before (.array :: frames)
  | key {frames : List Frame} {start : Nat} : Stacked g before frames →
      openArrays frames < g.maxArrays → openStructs frames < g.maxStructs →
      start = utf8Len (before ++ writtenFrames (.key start :: frames)) →
      Stacked g before (.key start :: frames)
  | value {frames : List Frame} {key : Descriptor} : Stacked g before frames →
      g.isKey key = true → g.Fits (.value key :: frames) key →
      Stacked g before (.value key :: frames)
  | struct {frames : List Frame} {members : List Descriptor} : Stacked g before frames →
      openStructs frames < g.maxStructs →
      (∀ d ∈ members, g.Fits (.struct members :: frames) d) →
      Stacked g before (.struct members :: frames)

namespace Progress

/-- The progress that is made by reading some characters. -/
structure Describes (g : Grammar) (p : Progress) (codes : List Char) : Prop where
  written : p.written = codes
  types : ∀ d ∈ p.types, g.Admits d
  frames : Stacked g (codesAll p.types.reverse) p.frames
  entry : ∀ key value, p.entry = some (key, value) → g.Fits p.frames (.dictionary key value)

end Progress

/-! ## Room -/

namespace Stacked

variable {g : Grammar} {before : List Char} {frames : List Frame}

/-- The open containers themselves do not exceed the allowed depth. -/
theorem room (h : Stacked g before frames) :
    openArrays frames ≤ g.maxArrays ∧ openStructs frames ≤ g.maxStructs := by
  induction h with
  | nil => exact ⟨Nat.zero_le _, Nat.zero_le _⟩
  | array _ ha ih =>
    simp
    omega
  | key _ ha hs _ _ =>
    simp
    omega
  | value _ _ hk _ =>
    exact ⟨(Nat.le_add_right _ _).trans hk.arrays, (Nat.le_add_right _ _).trans hk.structs⟩
  | struct _ hs _ ih =>
    simp
    omega

theorem fits_primitive (h : Stacked g before frames) (p : Primitive) :
    g.Fits frames (.primitive p) :=
  ⟨.primitive p, by simpa using h.room.1, by simpa using h.room.2⟩

/-- A struct that has a member can be closed. -/
theorem fits_struct {members : List Descriptor} (h : Stacked g before (.struct members :: frames))
    (hne : members ≠ []) : Stacked g before frames ∧ g.Fits frames (.struct members.reverse) := by
  cases h with
  | struct hframes _ hmembers =>
    have hfits : ∀ d ∈ members.reverse, g.Fits (.struct members :: frames) d := by
      intro d hd
      exact hmembers d (List.mem_reverse.1 hd)
    exact ⟨hframes, (Grammar.fits_struct_iff members).2 ⟨by simpa using hne, hfits⟩⟩

end Stacked

/-! ## Unknown characters -/

/-- The characters that may occur in a signature. -/
def alphabet : List Char :=
  ['b', 'y', 'n', 'q', 'i', 'u', 'x', 't', 'd', 's', 'o', 'g', 'h', 'v', 'a', '(', ')', '{', '}']

theorem not_mem_alphabet {c : Char} (h : Primitive.ofCode? c = none)
    (hmarks : c ∉ ['a', '(', ')', '{', '}']) : c ∉ alphabet := by
  have halphabet : alphabet = Primitive.all.map Primitive.code ++ ['a', '(', ')', '{', '}'] := rfl
  intro hc
  rw [halphabet] at hc
  rcases List.mem_append.1 hc with hcode | hmark
  · obtain ⟨p, -, rfl⟩ := List.mem_map.1 hcode
    rw [Primitive.ofCode?_code] at h
    cases h
  · exact hmarks hmark

namespace Progress

variable {g : Grammar} {p q : Progress} {codes : List Char} {c : Char}

/-- A reason to refuse a character that is not about a key. The character is unknown if and only if
a type may start there and the character is outside of the alphabet. -/
structure Blocks (p : Progress) (c : Char) (cause : Cause) : Prop where
  notKey : cause ≠ .keyNotBasic
  unknown : ∀ code, cause = .unknownCode code ↔ p.entry = none ∧ c ∉ alphabet ∧ code = c

theorem blocks_of_mem {cause : Cause} (hkey : cause ≠ .keyNotBasic)
    (hcode : ∀ code, cause ≠ .unknownCode code) (hc : c ∈ alphabet) : p.Blocks c cause := by
  refine ⟨hkey, fun code ↦ ⟨fun h ↦ absurd h (hcode code), ?_⟩⟩
  rintro ⟨-, hnot, -⟩
  exact absurd hc hnot

/-- What a character can do to the progress made so far. -/
inductive Reads (g : Grammar) (p : Progress) (codes : List Char) (c : Char) :
    Except Fault Progress → Prop
  | opens {q : Progress} : q.Describes g (codes ++ [c]) → Reads g p codes c (.ok q)
  | completes {d : Descriptor} {frames : List Frame} :
      Stacked g (codesAll p.types.reverse) frames → g.Fits frames d →
      codesAll p.types.reverse ++ writtenFrames frames ++ d.codes = codes ++ [c] →
      Reads g p codes c (p.deliver g d frames)
  | refused {cause : Cause} : p.Blocks c cause → Reads g p codes c (p.fail cause)

/-! ## The operations -/

namespace Describes

/-- Between two types there is no dictionary that lacks its closing brace. -/
theorem of_entry_eq_none (he : p.entry = none)
    (hwritten : codesAll p.types.reverse ++ writtenFrames p.frames = codes)
    (htypes : ∀ d ∈ p.types, g.Admits d) (hframes : Stacked g (codesAll p.types.reverse) p.frames) :
    p.Describes g codes := by
  refine ⟨?_, htypes, hframes, ?_⟩
  · simpa [Progress.written, writtenEntry, he] using hwritten
  · intro key value hentry
    rw [he] at hentry
    cases hentry

theorem openArray (hp : p.Describes g codes) (he : p.entry = none) :
    p.Reads g codes 'a' (p.openArray g) := by
  unfold Progress.openArray
  split
  · next hroom =>
    refine .opens (.of_entry_eq_none he ?_ hp.types (.array hp.frames hroom))
    simp [← hp.written, Progress.written, writtenFrames, writtenEntry, Frame.written, he]
  · exact .refused (blocks_of_mem (by simp) (by simp) (by decide))

theorem openEntry (hp : p.Describes g codes) (hn : p.position = utf8Len codes)
    (he : p.entry = none) : p.Reads g codes '{' (p.openEntry g) := by
  unfold Progress.openEntry
  split
  · next frames hf =>
    split
    · next hroom =>
      have hwritten : codesAll p.types.reverse ++ writtenFrames (.key (p.position + 1) :: frames) =
          codes ++ ['{'] := by
        simp [← hp.written, Progress.written, writtenFrames, writtenEntry, Frame.written, hf, he]
      have hstructs : openStructs p.frames < g.maxStructs := hroom
      have hframes := hp.frames
      rw [hf] at hframes hstructs
      cases hframes with
      | array hframes harrays =>
        refine .opens (.of_entry_eq_none he hwritten hp.types
          (.key hframes harrays (by simpa using hstructs) ?_))
        rw [hwritten, String.utf8Len_append, ← hn]
        rfl
    · exact .refused (blocks_of_mem (by simp) (by simp) (by decide))
  · exact .refused (blocks_of_mem (by simp) (by simp) (by decide))

theorem openStruct (hp : p.Describes g codes) (he : p.entry = none) :
    p.Reads g codes '(' (p.openStruct g) := by
  unfold Progress.openStruct
  split
  · next hroom =>
    refine .opens (.of_entry_eq_none he ?_ hp.types (.struct hp.frames hroom (by simp)))
    simp [← hp.written, Progress.written, writtenFrames, writtenEntry, Frame.written, he, codesAll]
  · exact .refused (blocks_of_mem (by simp) (by simp) (by decide))

theorem closeEntry (hp : p.Describes g codes) : p.Reads g codes '}' (p.closeEntry g) := by
  unfold Progress.closeEntry
  split
  · next key value he =>
    refine .completes hp.frames (hp.entry key value he) ?_
    simp [← hp.written, Progress.written, writtenEntry, he, Descriptor.codes]
  all_goals exact .refused (blocks_of_mem (by simp) (by simp) (by decide))

theorem closeStruct (hp : p.Describes g codes) (he : p.entry = none) :
    p.Reads g codes ')' (p.closeStruct g) := by
  unfold Progress.closeStruct
  split
  · exact .refused (blocks_of_mem (by simp) (by simp) (by decide))
  · next members frames hne hf =>
    obtain ⟨hframes, hfits⟩ := Stacked.fits_struct (hf ▸ hp.frames) hne
    refine .completes hframes hfits ?_
    simp [← hp.written, Progress.written, writtenFrames, writtenEntry, Frame.written, he, hf,
      Descriptor.codes]
  · exact .refused (blocks_of_mem (by simp) (by simp) (by decide))

theorem readPrimitive (hp : p.Describes g codes) (he : p.entry = none)
    (hmarks : c ∉ ['a', '(', ')', '{', '}']) : p.Reads g codes c (p.readPrimitive g c) := by
  unfold Progress.readPrimitive
  split
  · next primitive hc =>
    refine .completes hp.frames (hp.frames.fits_primitive primitive) ?_
    simp [← hp.written, Progress.written, writtenEntry, he, Descriptor.codes,
      Primitive.code_of_ofCode? hc]
  · next hc =>
    have hnot : c ∉ alphabet := not_mem_alphabet hc hmarks
    apply Reads.refused
    constructor
    · simp
    · intro code
      constructor
      · intro h
        cases h
        exact ⟨he, hnot, rfl⟩
      · rintro ⟨-, -, rfl⟩
        rfl

/-- A character opens a container, completes a type or is refused on the spot. -/
theorem accept (hp : p.Describes g codes) (hn : p.position = utf8Len codes) (c : Char) :
    p.Reads g codes c (p.accept g c) := by
  unfold Progress.accept
  split
  · next hc => exact hc ▸ hp.closeEntry
  split
  · next hentry =>
    -- Only a closing brace may follow both halves of a dictionary.
    have hsome : p.entry ≠ none := by
      intro he
      simp [he] at hentry
    apply Reads.refused
    constructor
    · simp
    · simp [hsome]
  next hbrace hentry =>
  have he : p.entry = none := by simpa using hentry
  split
  · next hc => exact hc ▸ hp.openArray he
  split
  · next hc => exact hc ▸ hp.openEntry hn he
  split
  · next hc => exact hc ▸ hp.openStruct he
  split
  · next hc => exact hc ▸ hp.closeStruct he
  · exact hp.readPrimitive he (by simp [*])

end Describes

end Progress

end Introspection.Signature
