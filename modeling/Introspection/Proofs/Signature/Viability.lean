import Introspection.Proofs.Signature.Soundness

/-!
# Viable texts

Where every type may be a key, whatever has been read can be completed: a type that fits below the
open containers closes them one after the other. So a text is viable if and only if it can be read.
A reader that follows the rules of the bus goes through the same states as one that follows the
relaxed rules, until it refuses a key.
-/

namespace Introspection.Signature

open Descriptor

namespace Grammar

variable {g : Grammar} {codes rest : List Char}

theorem Viable.of_append (h : g.Viable (codes ++ rest)) : g.Viable codes := by
  obtain ⟨more, hmore⟩ := h
  exact ⟨rest ++ more, by rwa [← List.append_assoc]⟩

theorem Viable.initial (h : g.Viable rest) (hrest : codes <+: rest) : g.Viable codes := by
  obtain ⟨more, rfl⟩ := hrest
  exact h.of_append

end Grammar

/-! ## Completion -/

section Lenient

variable {g : Grammar} (hkey : ∀ d, g.isKey d = true)

include hkey

/-- A type that fits below open containers is part of one that stands on its own. -/
theorem Stacked.exists_completion {before : List Char} {frames : List Frame} {d : Descriptor}
    (hframes : Stacked g before frames) (hd : g.Fits frames d) :
    ∃ whole rest, g.Admits whole ∧ writtenFrames frames ++ d.codes ++ rest = whole.codes := by
  induction hframes generalizing d with
  | nil => exact ⟨d, [], Grammar.fits_nil_iff.1 hd, List.append_nil _⟩
  | array _ _ ih =>
    obtain ⟨whole, rest, hwhole, hcodes⟩ := ih (Grammar.fits_array_iff.2 hd)
    exact ⟨whole, rest, hwhole, by simpa [writtenFrames, Frame.written, codes] using hcodes⟩
  | @key frames start hframes harrays hstructs _ ih =>
    have hvalue : g.Fits (.value d :: frames) (.primitive .int32) := by
      refine ⟨.primitive _, ?_, ?_⟩ <;> simp <;> omega
    obtain ⟨whole, rest, hwhole, hcodes⟩ :=
      ih ((Grammar.fits_dictionary_iff start).2 ⟨hkey d, hd, hvalue⟩)
    refine ⟨whole, 'i' :: '}' :: rest, hwhole, ?_⟩
    simpa [writtenFrames, Frame.written, codes, Primitive.code] using hcodes
  | @value frames key hframes _ hk ih =>
    have hk' : g.Fits (.key 0 :: frames) key := (Grammar.fits_congr (by simp) (by simp)).1 hk
    obtain ⟨whole, rest, hwhole, hcodes⟩ :=
      ih ((Grammar.fits_dictionary_iff 0).2 ⟨hkey key, hk', hd⟩)
    refine ⟨whole, '}' :: rest, hwhole, ?_⟩
    simpa [writtenFrames, Frame.written, codes] using hcodes
  | @struct frames members hframes _ hmembers ih =>
    have hall : ∀ d' ∈ d :: members, g.Fits (.struct members :: frames) d' :=
      List.forall_mem_cons.2 ⟨hd, hmembers⟩
    have hstruct : g.Fits frames (.struct (d :: members).reverse) := by
      refine (Grammar.fits_struct_iff members).2 ⟨by simp, ?_⟩
      intro d' hd'
      exact hall d' (List.mem_reverse.1 hd')
    obtain ⟨whole, rest, hwhole, hcodes⟩ := ih hstruct
    refine ⟨whole, ')' :: rest, hwhole, ?_⟩
    simpa [writtenFrames, Frame.written, codes, codesAll] using hcodes

namespace Progress

variable {p : Progress} {codes : List Char}

theorem Describes.viable (hp : p.Describes g codes) : g.Viable codes := by
  -- The complete types followed by one more are a sentence.
  have hsentence {whole : Descriptor} (rest : List Char) (hwhole : g.Admits whole)
      (hcodes : codes ++ rest = codesAll p.types.reverse ++ whole.codes) : g.Viable codes := by
    refine ⟨rest, p.types.reverse ++ [whole], ?_, ?_⟩
    · intro d hd
      rcases List.mem_append.1 hd with hd | hd
      · exact hp.types d (List.mem_reverse.1 hd)
      · exact List.mem_singleton.1 hd ▸ hwhole
    · simpa [codesAll] using hcodes.symm
  have hwritten := hp.written
  cases he : p.entry with
  | some entry =>
    obtain ⟨key, value⟩ := entry
    obtain ⟨whole, rest, hwhole, hcodes⟩ :=
      hp.frames.exists_completion hkey (hp.entry key value he)
    refine hsentence ('}' :: rest) hwhole ?_
    simp [← hwritten, Progress.written, writtenEntry, he, ← hcodes, Descriptor.codes]
  | none =>
    obtain ⟨whole, rest, hwhole, hcodes⟩ :=
      hp.frames.exists_completion hkey (hp.frames.fits_primitive .int32)
    refine hsentence ('i' :: rest) hwhole ?_
    simp [← hwritten, Progress.written, writtenEntry, he, ← hcodes, Descriptor.codes,
      Primitive.code]

theorem exists_deliver (p : Progress) (d : Descriptor) (frames : List Frame) :
    ∃ q, p.deliver g d frames = .ok q := by
  induction frames generalizing d with
  | nil => exact ⟨_, rfl⟩
  | cons frame frames ih =>
    cases frame with
    | array => exact ih (.array d)
    | key n => exact ⟨_, if_pos (hkey d)⟩
    | value key => exact ⟨_, rfl⟩
    | struct members => exact ⟨_, rfl⟩

/-- What can be read is what can be completed. -/
theorem viable_iff_exists_run :
    g.Viable codes ↔ ∃ p, codes.foldlM (step g) start = .ok p := by
  constructor
  · rintro ⟨rest, types, htypes, hcodes⟩
    have hread := read_codesAll htypes
    rw [hcodes, read, List.foldlM_append, bind_assoc, bind_eq_ok_iff] at hread
    obtain ⟨p, hp, -⟩ := hread
    exact ⟨p, hp⟩
  · rintro ⟨p, hp⟩
    exact (describes_of_run hp).1.viable hkey

/-- A type may start unless a dictionary only lacks its closing brace. -/
theorem viable_append_int32_iff (hp : codes.foldlM (step g) start = .ok p) :
    g.Viable (codes ++ ['i']) ↔ p.entry = none := by
  rw [viable_iff_exists_run hkey, run_append_singleton hp]
  obtain ⟨n, entry, frames, types⟩ := p
  cases entry with
  | none =>
    obtain ⟨q, hq⟩ := exists_deliver hkey ⟨n + 1, none, frames, types⟩ (.primitive .int32) frames
    exact ⟨fun _ ↦ rfl, fun _ ↦ ⟨q, (step_primitive .int32).trans hq⟩⟩
  | some entry =>
    constructor
    · rintro ⟨q, hq⟩
      cases hq
    · intro h
      cases h

end Progress

end Lenient

/-! ## Strict and relaxed rules -/

namespace Progress

variable {p q : Progress} {codes : List Char}

/-- The stricter rules refuse a type only where the relaxed ones take it for a key. -/
theorem deliver_relaxed (p : Progress) (d : Descriptor) (frames : List Frame) :
    p.deliver .bus d frames = p.deliver .relaxed d frames ∨
      ∃ n q, p.deliver .bus d frames = .error ⟨n, .keyNotBasic⟩ ∧
        p.deliver .relaxed d frames = .ok q := by
  induction frames generalizing d with
  | nil => exact .inl rfl
  | cons frame frames ih =>
    cases frame with
    | array => exact ih (.array d)
    | key n =>
      cases hkey : Grammar.bus.isKey d with
      | true => exact .inl (if_pos hkey)
      | false => exact .inr ⟨n, _, if_neg (by simp [hkey]), rfl⟩
    | value key => exact .inl rfl
    | struct members => exact .inl rfl

theorem accept_relaxed (p : Progress) (c : Char) :
    p.accept .bus c = p.accept .relaxed c ∨
      ∃ n q, p.accept .bus c = .error ⟨n, .keyNotBasic⟩ ∧ p.accept .relaxed c = .ok q := by
  unfold accept
  split
  · unfold closeEntry
    split
    · exact deliver_relaxed ..
    all_goals exact .inl rfl
  split
  · exact .inl rfl
  split
  · exact .inl rfl
  split
  · exact .inl rfl
  split
  · exact .inl rfl
  split
  · unfold closeStruct
    split
    · exact .inl rfl
    · exact deliver_relaxed ..
    · exact .inl rfl
  · unfold readPrimitive
    split
    · exact deliver_relaxed ..
    · exact .inl rfl

theorem step_relaxed (p : Progress) (c : Char) :
    p.step .bus c = p.step .relaxed c ∨
      ∃ n q, p.step .bus c = .error ⟨n, .keyNotBasic⟩ ∧ p.step .relaxed c = .ok q := by
  unfold step
  rcases p.accept_relaxed c with h | ⟨n, q, hbus, hrelaxed⟩
  · exact .inl (by rw [h])
  · exact .inr ⟨n, { q with position := p.position + c.utf8Size }, by rw [hbus]; rfl,
      by rw [hrelaxed]; rfl⟩

theorem step_relaxed_of_ok {c : Char} (h : p.step .bus c = .ok q) :
    p.step .relaxed c = .ok q := by
  rcases p.step_relaxed c with heq | ⟨n, _, hbus, -⟩
  · rwa [← heq]
  · cases h.symm.trans hbus

/-- A fault that is not about a key is one under the relaxed rules as well. -/
theorem step_relaxed_of_error {c : Char} {fault : Fault} (h : p.step .bus c = .error fault)
    (hcause : fault.cause ≠ .keyNotBasic) : p.step .relaxed c = .error fault := by
  rcases p.step_relaxed c with heq | ⟨n, _, hbus, -⟩
  · rwa [← heq]
  · cases h.symm.trans hbus
    exact absurd rfl hcause

/-- What is read under the rules of the bus is read alike under the relaxed ones. -/
theorem run_relaxed_of_run_bus (h : codes.foldlM (step .bus) p = .ok q) :
    codes.foldlM (step .relaxed) p = .ok q := by
  induction codes generalizing p with
  | nil => exact h
  | cons c codes ih =>
    rw [List.foldlM_cons, bind_eq_ok_iff] at h ⊢
    obtain ⟨r, hr, h⟩ := h
    exact ⟨r, step_relaxed_of_ok hr, ih h⟩

end Progress

end Introspection.Signature
