import Introspection.Proofs.Signature.Soundness

/-!
# Which signatures are accepted

A signature is accepted if and only if it is short enough and is the text of some legal types,
which are then the types found in it. So the types of a signature are unique, and joining
signatures joins their types.
-/

namespace Introspection.Signature

open Descriptor

/-! ## Texts -/

@[simp] theorem toList_join_text (types : List Descriptor) :
    (String.join (types.map text)).toList = codesAll types := by
  simp only [String.toList_join, List.flatMap_map, toList_text, codesAll_eq_flatMap]

theorem join_text_eq_iff {types : List Descriptor} {signature : String} :
    String.join (types.map text) = signature ↔ codesAll types = signature.toList := by
  rw [← String.toList_inj, toList_join_text]

/-! ## Parsing -/

theorem parse_eq_ok_iff {signature : String} {types : List Descriptor} :
    parse signature = .ok types ↔
      signature.utf8ByteSize ≤ 255 ∧ (∀ d ∈ types, d.Legal) ∧
        String.join (types.map text) = signature := by
  have hread : read .bus signature.toList = .ok types ↔
      (∀ d ∈ types, d.Legal) ∧ codesAll types = signature.toList := by
    simp only [read_eq_ok_iff, Grammar.admits_bus_iff]
  rw [join_text_eq_iff, ← hread, parse]
  split
  · next h =>
    have : ¬ signature.utf8ByteSize ≤ 255 := Nat.not_le.2 h
    simp [this]
  · next h =>
    have : signature.utf8ByteSize ≤ 255 := Nat.not_lt.1 h
    simp [this, mapError_eq_ok_iff]

theorem parse_eq_tooLong {signature : String} (h : 255 < signature.utf8ByteSize) :
    parse signature = .error (.unreadable signature ⟨255, .tooLong⟩) :=
  if_pos h

theorem parseSingle_eq_ok_iff_parse {signature : String} {d : Descriptor} :
    parseSingle signature = .ok d ↔ parse signature = .ok [d] := by
  rw [parseSingle, bind_eq_ok_iff]
  constructor
  · rintro ⟨types, htypes, h⟩
    split at h
    · cases h
      exact htypes
    · cases h
  · intro h
    exact ⟨[d], h, rfl⟩

theorem parseSingle_eq_ok_iff {signature : String} {d : Descriptor} :
    parseSingle signature = .ok d ↔
      signature.utf8ByteSize ≤ 255 ∧ d.Legal ∧ d.text = signature := by
  rw [parseSingle_eq_ok_iff_parse, parse_eq_ok_iff]
  simp [String.join]

/-- A signature, or a single type, is accepted exactly as the text of what it stands for. -/
theorem parse_accepts_exactly (signature : String) :
    (∀ types : List Descriptor, parse signature = .ok types ↔
      signature.utf8ByteSize ≤ 255 ∧ (∀ d ∈ types, d.Legal) ∧
        String.join (types.map text) = signature) ∧
    ∀ d : Descriptor, parseSingle signature = .ok d ↔
      signature.utf8ByteSize ≤ 255 ∧ d.Legal ∧ d.text = signature :=
  ⟨fun _ ↦ parse_eq_ok_iff, fun _ ↦ parseSingle_eq_ok_iff⟩

example : parse "a\x7bsv\x7d(ii)" =
    .ok [.dictionary (.primitive .string) (.primitive .variant),
      .struct [.primitive .int32, .primitive .int32]] := by rfl

/-- Signatures that hold one type each are joined to a signature that holds these types, as long as
it is not too long. -/
theorem parse_join {signatures : List String} {types : List Descriptor}
    (h : List.Forall₂ (fun signature d ↦ parseSingle signature = .ok d) signatures types)
    (hlen : (String.join signatures).utf8ByteSize ≤ 255) :
    parse (String.join signatures) = .ok types := by
  have htext : types.map text = signatures := by
    clear hlen
    induction h with
    | nil => rfl
    | cons hd _ ih => rw [List.map_cons, ih, (parseSingle_eq_ok_iff.1 hd).2.2]
  have hlegal : ∀ d ∈ types, d.Legal := by
    clear hlen htext
    induction h with
    | nil => simp
    | cons hd _ ih => exact List.forall_mem_cons.2 ⟨(parseSingle_eq_ok_iff.1 hd).2.1, ih⟩
  exact parse_eq_ok_iff.2 ⟨hlen, hlegal, congrArg String.join htext⟩

end Introspection.Signature
