import Introspection.Proofs.Outcome
import Introspection.Proofs.Signature.Grammar
import Mathlib.Data.String.Basic

/-!
# Reading what is written

The codes of a type that fits below the open containers are read to the end, and the type is then
handed to the innermost of these containers. So every sentence of a grammar is read, and the types
found in it are the ones it was written from.
-/

open String (utf8Len)

namespace Introspection.Signature

open Descriptor

variable {g : Grammar}

namespace Progress

variable {d : Descriptor} {n : Nat} {frames : List Frame} {types : List Descriptor}

/-! ## Single characters -/

/-- Only the frames that a type is handed to matter, not what else is known. -/
theorem deliver_congr (g : Grammar) (n : Nat) (e e' : Option (Descriptor × Descriptor))
    (f f' : List Frame) (types : List Descriptor) (d : Descriptor) (frames : List Frame) :
    deliver g ⟨n, e, f, types⟩ d frames = deliver g ⟨n, e', f', types⟩ d frames := by
  induction frames generalizing d with
  | nil => rfl
  | cons frame frames ih =>
    cases frame with
    | array => exact ih (.array d)
    | key start => rfl
    | value key => rfl
    | struct members => rfl

/-- A delivery keeps the position, so that the position may as well be set before it. -/
theorem deliver_bind_position (g : Grammar) (n m : Nat) (e : Option (Descriptor × Descriptor))
    (f : List Frame) (types : List Descriptor) (d : Descriptor) (frames : List Frame) :
    (do let q ← deliver g ⟨n, e, f, types⟩ d frames
        return { q with position := m }) = deliver g ⟨m, e, f, types⟩ d frames := by
  induction frames generalizing d with
  | nil => rfl
  | cons frame frames ih =>
    cases frame with
    | array => exact ih (.array d)
    | key start =>
      simp only [deliver]
      split <;> rfl
    | value key => rfl
    | struct members => rfl

theorem run_append_singleton {p q : Progress} {codes : List Char}
    (h : codes.foldlM (step g) p = .ok q) (c : Char) :
    (codes ++ [c]).foldlM (step g) p = q.step g c := by
  rw [List.foldlM_append, h, ok_bind]
  exact bind_pure _

theorem step_primitive (p : Primitive) :
    step g ⟨n, none, frames, types⟩ p.code =
      deliver g ⟨n + 1, none, frames, types⟩ (.primitive p) frames := by
  have haccept : accept g ⟨n, none, frames, types⟩ p.code =
      deliver g ⟨n, none, frames, types⟩ (.primitive p) frames := by
    cases p <;> rfl
  have hsize : p.code.utf8Size = 1 := by cases p <;> rfl
  rw [step, haccept, hsize]
  exact deliver_bind_position ..

theorem step_array (h : openArrays frames < g.maxArrays) :
    step g ⟨n, none, frames, types⟩ 'a' = .ok ⟨n + 1, none, .array :: frames, types⟩ := by
  have haccept : accept g ⟨n, none, frames, types⟩ 'a' =
      .ok ⟨n, none, .array :: frames, types⟩ := if_pos h
  rw [step, haccept]
  rfl

theorem step_entry (h : openStructs frames < g.maxStructs) :
    step g ⟨n, none, .array :: frames, types⟩ '{' =
      .ok ⟨n + 1, none, .key (n + 1) :: frames, types⟩ := by
  have hopen : openStructs (.array :: frames) < g.maxStructs := by simpa using h
  have haccept : accept g ⟨n, none, .array :: frames, types⟩ '{' =
      .ok ⟨n, none, .key (n + 1) :: frames, types⟩ := if_pos hopen
  rw [step, haccept]
  rfl

theorem step_closeEntry (key value : Descriptor) :
    step g ⟨n, some (key, value), frames, types⟩ '}' =
      deliver g ⟨n + 1, none, frames, types⟩ (.dictionary key value) frames := by
  rw [deliver_congr g (n + 1) none (some (key, value)) frames frames]
  exact deliver_bind_position ..

theorem step_struct (h : openStructs frames < g.maxStructs) :
    step g ⟨n, none, frames, types⟩ '(' = .ok ⟨n + 1, none, .struct [] :: frames, types⟩ := by
  have haccept : accept g ⟨n, none, frames, types⟩ '(' =
      .ok ⟨n, none, .struct [] :: frames, types⟩ := if_pos h
  rw [step, haccept]
  rfl

theorem step_closeStruct {members : List Descriptor} (h : members ≠ []) :
    step g ⟨n, none, .struct members :: frames, types⟩ ')' =
      deliver g ⟨n + 1, none, frames, types⟩ (.struct members.reverse) frames := by
  obtain ⟨d, ds, rfl⟩ := List.exists_cons_of_ne_nil h
  rw [deliver_congr g (n + 1) none none frames (.struct (d :: ds) :: frames)]
  exact deliver_bind_position ..

/-! ## Complete types -/

/-- The members of a struct are collected one by one, the latest one first. -/
theorem foldlM_codesAll_struct {members : List Descriptor} (read : List Descriptor)
    (h : ∀ d ∈ members, ∀ n read, d.codes.foldlM (step g) ⟨n, none, .struct read :: frames, types⟩ =
      deliver g ⟨n + utf8Len d.codes, none, .struct read :: frames, types⟩ d
        (.struct read :: frames)) :
    (codesAll members).foldlM (step g) ⟨n, none, .struct read :: frames, types⟩ =
      .ok ⟨n + utf8Len (codesAll members), none, .struct (members.reverse ++ read) :: frames,
        types⟩ := by
  induction members generalizing n read with
  | nil => rfl
  | cons d ds ih =>
    have hrest := ih (n := n + utf8Len d.codes) (d :: read) fun d hd ↦
      h d (List.mem_cons_of_mem _ hd)
    rw [codesAll, List.foldlM_append, h d List.mem_cons_self]
    simpa [deliver, Nat.add_assoc] using hrest

theorem foldlM_codes (hw : d.WellFormed (g.isKey · = true)) (h : g.Fits frames d) :
    d.codes.foldlM (step g) ⟨n, none, frames, types⟩ =
      deliver g ⟨n + utf8Len d.codes, none, frames, types⟩ d frames := by
  induction hw generalizing n frames with
  | primitive p =>
    have hlen : utf8Len (primitive p).codes = 1 := by cases p <;> rfl
    rw [hlen, codes, List.foldlM_cons, step_primitive]
    exact bind_pure _
  | @array element _ ih =>
    have hroom : openArrays frames < g.maxArrays := by
      have := h.arrays
      rw [arrayNesting_array] at this
      omega
    have hlen : n + utf8Len (array element).codes = n + 1 + utf8Len element.codes := by
      have : 'a'.utf8Size = 1 := rfl
      rw [codes, String.utf8Len_cons]
      omega
    rw [hlen, codes, List.foldlM_cons, step_array hroom, ok_bind]
    exact (ih (Grammar.fits_array_iff.1 h)).trans (deliver_congr ..)
  | @dictionary key value hkey _ _ ihk ihv =>
    obtain ⟨-, hk, hv⟩ := (Grammar.fits_dictionary_iff (n + 1 + 1)).1 h
    have harrays : openArrays frames < g.maxArrays := by
      have := h.arrays
      rw [arrayNesting_dictionary] at this
      omega
    have hstructs : openStructs frames < g.maxStructs := by
      have := h.structs
      rw [structNesting_dictionary] at this
      omega
    have hreadKey : key.codes.foldlM (step g) ⟨n + 1 + 1, none, .key (n + 1 + 1) :: frames, types⟩ =
        .ok ⟨n + 1 + 1 + utf8Len key.codes, none, .value key :: frames, types⟩ :=
      (ihk hk).trans (if_pos hkey)
    have hreadValue : value.codes.foldlM (step g)
        ⟨n + 1 + 1 + utf8Len key.codes, none, .value key :: frames, types⟩ =
        .ok ⟨n + 1 + 1 + utf8Len key.codes + utf8Len value.codes, some (key, value), frames,
          types⟩ :=
      ihv hv
    have hlen : n + utf8Len (dictionary key value).codes =
        n + 1 + 1 + utf8Len key.codes + utf8Len value.codes + 1 := by
      have : 'a'.utf8Size = 1 ∧ '{'.utf8Size = 1 ∧ '}'.utf8Size = 1 := ⟨rfl, rfl, rfl⟩
      simp only [codes, String.utf8Len_cons, String.utf8Len_append, String.utf8Len_nil]
      omega
    have hreadHalves : (key.codes ++ value.codes).foldlM (step g)
        ⟨n + 1 + 1, none, .key (n + 1 + 1) :: frames, types⟩ =
        .ok ⟨n + 1 + 1 + utf8Len key.codes + utf8Len value.codes, some (key, value), frames,
          types⟩ := by
      rw [List.foldlM_append, hreadKey, ok_bind, hreadValue]
    calc (dictionary key value).codes.foldlM (step g) ⟨n, none, frames, types⟩
        = ('{' :: (key.codes ++ value.codes ++ ['}'])).foldlM (step g)
            ⟨n + 1, none, .array :: frames, types⟩ := by
          rw [codes, List.foldlM_cons, step_array harrays, ok_bind]
      _ = (key.codes ++ value.codes ++ ['}']).foldlM (step g)
            ⟨n + 1 + 1, none, .key (n + 1 + 1) :: frames, types⟩ := by
          rw [List.foldlM_cons, step_entry hstructs, ok_bind]
      _ = deliver g ⟨n + utf8Len (dictionary key value).codes, none, frames, types⟩
            (.dictionary key value) frames := by
          rw [run_append_singleton hreadHalves, step_closeEntry, hlen]
  | @struct members hne _ ih =>
    have hstructs : openStructs frames < g.maxStructs := by
      have := h.structs
      rw [structNesting_struct] at this
      omega
    have hread : (codesAll members).foldlM (step g) ⟨n + 1, none, .struct [] :: frames, types⟩ =
        .ok ⟨n + 1 + utf8Len (codesAll members), none, .struct (members.reverse ++ []) :: frames,
          types⟩ :=
      foldlM_codesAll_struct [] fun d hd n read ↦
        ih d hd (((Grammar.fits_struct_iff read).1 h).2 d hd)
    have hlen : n + utf8Len (struct members).codes = n + 1 + utf8Len (codesAll members) + 1 := by
      have : '('.utf8Size = 1 ∧ ')'.utf8Size = 1 := ⟨rfl, rfl⟩
      simp only [codes, String.utf8Len_cons, String.utf8Len_append, String.utf8Len_nil]
      omega
    have hmembers : members.reverse ++ [] ≠ [] := by simpa using hne
    calc (struct members).codes.foldlM (step g) ⟨n, none, frames, types⟩
        = (codesAll members ++ [')']).foldlM (step g)
            ⟨n + 1, none, .struct [] :: frames, types⟩ := by
          rw [codes, List.foldlM_cons, step_struct hstructs, ok_bind]
      _ = deliver g ⟨n + 1 + utf8Len (codesAll members) + 1, none, frames, types⟩
            (.struct (members.reverse ++ []).reverse) frames := by
          rw [run_append_singleton hread, step_closeStruct hmembers]
      _ = deliver g ⟨n + utf8Len (struct members).codes, none, frames, types⟩ (.struct members)
            frames := by
          rw [hlen, List.append_nil, List.reverse_reverse]

/-- Types outside of all containers are collected one by one, the latest one first. -/
theorem foldlM_codesAll {ds : List Descriptor} (types : List Descriptor)
    (h : ∀ d ∈ ds, g.Admits d) :
    (codesAll ds).foldlM (step g) ⟨n, none, [], types⟩ =
      .ok ⟨n + utf8Len (codesAll ds), none, [], ds.reverse ++ types⟩ := by
  induction ds generalizing n types with
  | nil => rfl
  | cons d ds ih =>
    have hd := h d List.mem_cons_self
    have hrest := ih (n := n + utf8Len d.codes) (d :: types) fun d hd ↦
      h d (List.mem_cons_of_mem _ hd)
    rw [codesAll, List.foldlM_append, foldlM_codes hd.wellFormed (Grammar.fits_nil_iff.2 hd)]
    simpa [deliver, Nat.add_assoc] using hrest

end Progress

/-- Every sentence is read. -/
theorem read_codesAll {types : List Descriptor} (h : ∀ d ∈ types, g.Admits d) :
    read g (codesAll types) = .ok types := by
  rw [read, Progress.start, Progress.foldlM_codesAll [] h, ok_bind, List.append_nil]
  exact congrArg Except.ok (List.reverse_reverse types)

end Introspection.Signature
