import Introspection.Proofs.Signature.Acceptance
import Introspection.Proofs.Signature.Viability
import Mathlib.Order.Bounds.Defs

/-!
# Where a signature is refused

A fault stands behind the longest viable beginning of a signature, so at the first character that
cannot continue any signature. The exception is a type that is complete but must not be a key: it
is blamed at its first character. A character outside of the alphabet is called unknown where a
type may start; elsewhere what is missing is something else.
-/

open String (utf8Len)

namespace Introspection.Signature

open Descriptor

/-! ## Prefixes -/

theorem prefix_of_utf8Len_le {codes codes' text : List Char} (h : codes <+: text)
    (h' : codes' <+: text) (hlen : utf8Len codes ≤ utf8Len codes') : codes <+: codes' := by
  rcases List.prefix_or_prefix_of_prefix h h' with h | ⟨rest, rfl⟩
  · exact h
  · rw [String.utf8Len_append] at hlen
    have hrest : rest = [] := String.utf8Len_eq_zero.1 (by omega)
    simp [hrest]

theorem eq_of_utf8Len_eq {codes codes' text : List Char} (h : codes <+: text)
    (h' : codes' <+: text) (hlen : utf8Len codes = utf8Len codes') : codes = codes' :=
  (prefix_of_utf8Len_le h h' hlen.le).eq_of_length_le
    (prefix_of_utf8Len_le h' h hlen.ge).length_le

/-! ## What may stand at a fault -/

/-- The lengths of the viable beginnings of a text, in bytes. -/
def viableLengths (text : List Char) : Set Nat :=
  {n | ∃ codes, codes <+: text ∧ Grammar.relaxed.Viable codes ∧ utf8Len codes = n}

/-- At a place where a key is expected stands a complete type that cannot be one. -/
def KeyRefusedAt (text : List Char) (position : Nat) : Prop :=
  ∃ (before : List Char) (key : Descriptor) (after : List Char),
    text = before ++ key.codes ++ after ∧ utf8Len before = position ∧ ['a', '{'] <:+ before ∧
      Grammar.relaxed.Viable before ∧ Grammar.relaxed.Viable (before ++ key.codes) ∧
      parseSingle key.text = .ok key ∧ ¬ ∃ p : Primitive, key = .primitive p ∧ p ≠ .variant

/-- At a place where a type may start stands a character that no signature holds. -/
def UnknownAt (text : List Char) (position : Nat) (code : Char) : Prop :=
  ∃ before after : List Char, text = before ++ code :: after ∧ utf8Len before = position ∧
    code ∉ alphabet ∧ Grammar.relaxed.Viable (before ++ ['i'])

namespace Progress

variable {g : Grammar} {p q : Progress} {codes : List Char} {fault : Fault}

/-! ## Faults at a character -/

/-- The only fault of a complete type is that it is no key. -/
theorem key_of_deliver_eq_error {before : List Char} {d : Descriptor} {frames : List Frame}
    (hframes : Stacked g before frames) (hd : g.Fits frames d)
    (h : p.deliver g d frames = .error fault) :
    ∃ codes key, before ++ writtenFrames frames ++ d.codes = codes ++ key.codes ∧
      fault = ⟨utf8Len codes, .keyNotBasic⟩ ∧ ['a', '{'] <:+ codes ∧ g.Admits key ∧
      g.isKey key = false := by
  induction hframes generalizing d with
  | nil => cases h
  | array _ _ ih =>
    obtain ⟨codes, key, hcodes, hrest⟩ := ih (Grammar.fits_array_iff.2 hd) h
    refine ⟨codes, key, ?_, hrest⟩
    rw [← hcodes]
    simp [writtenFrames, Frame.written, Descriptor.codes]
  | @key frames start _ _ _ hstart _ =>
    unfold deliver at h
    split at h
    · cases h
    · next hkey =>
      cases h
      refine ⟨before ++ writtenFrames (.key start :: frames), d, rfl, by rw [← hstart], ?_, ?_, ?_⟩
      · exact ⟨before ++ writtenFrames frames, by simp [writtenFrames, Frame.written]⟩
      · exact ⟨hd.wellFormed, (Nat.le_add_left _ _).trans hd.arrays,
          (Nat.le_add_left _ _).trans hd.structs⟩
      · simpa using hkey
  | value => cases h
  | struct => cases h

/-- A character is refused on the spot, or it completes a type that is no key. -/
theorem Describes.accept_eq_error {c : Char} (hp : p.Describes g codes)
    (hn : p.position = utf8Len codes) (h : p.accept g c = .error fault) :
    (fault.position = p.position ∧ p.Blocks c fault.cause) ∨
      ∃ before key, codes ++ [c] = before ++ key.codes ∧ fault = ⟨utf8Len before, .keyNotBasic⟩ ∧
        ['a', '{'] <:+ before ∧ g.Admits key ∧ g.isKey key = false := by
  have hreads := hp.accept hn c
  rw [h] at hreads
  generalize hresult : (.error fault : Except Fault Progress) = result at hreads
  cases hreads with
  | opens => cases hresult
  | completes hframes hd hcodes =>
    have hkey := key_of_deliver_eq_error hframes hd hresult.symm
    exact .inr (hcodes ▸ hkey)
  | refused hblocks =>
    cases hresult
    exact .inl ⟨rfl, hblocks⟩

theorem step_eq_error_iff {c : Char} : p.step g c = .error fault ↔ p.accept g c = .error fault := by
  rw [step, bind_eq_error_iff]
  constructor
  · rintro (h | ⟨_, _, h⟩)
    · exact h
    · cases h
  · exact .inl

/-! ## Faults at the end -/

theorem finish_eq_error (h : p.finish = .error fault) :
    fault.position = p.position ∧ fault.cause ≠ .keyNotBasic ∧
      ∀ code, fault.cause ≠ .unknownCode code := by
  unfold finish at h
  split at h <;> cases h <;> simp

/-! ## Viable beginnings -/

/-- The text read so far is the longest viable beginning if the next character is refused. -/
theorem isGreatest_viableLengths {before after : List Char} {c : Char}
    (hviable : Grammar.relaxed.Viable before) (hc : ¬ Grammar.relaxed.Viable (before ++ [c])) :
    IsGreatest (viableLengths (before ++ c :: after)) (utf8Len before) := by
  refine ⟨⟨before, List.prefix_append _ _, hviable, rfl⟩, ?_⟩
  rintro _ ⟨codes, hcodes, hv, rfl⟩
  by_contra hlt
  obtain ⟨rest, rfl⟩ := prefix_of_utf8Len_le (List.prefix_append before (c :: after)) hcodes
    (Nat.le_of_lt (Nat.lt_of_not_le hlt))
  cases rest with
  | nil => simp at hlt
  | cons c' rest =>
    obtain ⟨rfl, -⟩ := List.cons_prefix_cons.1 ((List.prefix_append_right_inj before).1 hcodes)
    exact hc (hv.initial ⟨rest, by simp⟩)

/-- A refused character cannot continue the text before it. -/
theorem viable_of_accept_eq_error {c : Char} (hrun : codes.foldlM (step .bus) start = .ok p)
    (h : p.accept .bus c = .error fault) (hcause : fault.cause ≠ .keyNotBasic) :
    fault.position = utf8Len codes ∧ Grammar.relaxed.Viable codes ∧
      ¬ Grammar.relaxed.Viable (codes ++ [c]) ∧
      ∀ code, fault.cause = .unknownCode code ↔
        Grammar.relaxed.Viable (codes ++ ['i']) ∧ c ∉ alphabet ∧ code = c := by
  have hrelaxed := run_relaxed_of_run_bus hrun
  obtain ⟨hp, hn⟩ := describes_of_run hrun
  have hstep : p.step .relaxed c = .error fault :=
    step_relaxed_of_error (step_eq_error_iff.2 h) hcause
  have hviable : Grammar.relaxed.Viable codes :=
    (viable_iff_exists_run Grammar.isKey_relaxed).2 ⟨p, hrelaxed⟩
  rcases hp.accept_eq_error hn h with ⟨hposition, hblocks⟩ | ⟨_, _, -, rfl, -⟩
  · refine ⟨hposition.trans hn, hviable, ?_, ?_⟩
    · rw [viable_iff_exists_run Grammar.isKey_relaxed]
      rintro ⟨q, hq⟩
      rw [run_append_singleton hrelaxed, hstep] at hq
      cases hq
    · intro code
      rw [hblocks.unknown, viable_append_int32_iff Grammar.isKey_relaxed hrelaxed]
  · exact absurd rfl hcause

/-- The relaxed rules go on where a key is refused, as they refuse none. -/
theorem viable_of_accept_eq_keyNotBasic {c : Char} (hrun : codes.foldlM (step .bus) start = .ok p)
    (h : p.accept .bus c = .error fault) (hcause : fault.cause = .keyNotBasic) :
    Grammar.relaxed.Viable (codes ++ [c]) := by
  have hrelaxed := run_relaxed_of_run_bus hrun
  obtain ⟨hp, hn⟩ := describes_of_run hrelaxed
  rw [viable_iff_exists_run Grammar.isKey_relaxed, run_append_singleton hrelaxed]
  rcases p.step_relaxed c with heq | ⟨_, q, -, hq⟩
  · have herror : p.accept .relaxed c = .error fault :=
      step_eq_error_iff.1 (heq ▸ step_eq_error_iff.2 h)
    rcases hp.accept_eq_error hn herror with ⟨-, hblocks⟩ | ⟨_, _, -, -, -, -, hkey⟩
    · exact absurd hcause hblocks.notKey
    · cases hkey
  · exact ⟨q, hq⟩

/-- A refused key is a type that the relaxed rules allow. -/
theorem keyRefusedAt_of_accept_eq_error {c : Char} (rest : List Char)
    (hrun : codes.foldlM (step .bus) start = .ok p) (h : p.accept .bus c = .error fault)
    (hcause : fault.cause = .keyNotBasic) (hlen : utf8Len (codes ++ c :: rest) ≤ 255) :
    KeyRefusedAt (codes ++ c :: rest) fault.position := by
  have hviable := viable_of_accept_eq_keyNotBasic hrun h hcause
  obtain ⟨hp, hn⟩ := describes_of_run hrun
  rcases hp.accept_eq_error hn h with
    ⟨-, hblocks⟩ | ⟨before, key, hcodes, rfl, hsuffix, hadmits, hkey⟩
  · exact absurd hcause hblocks.notKey
  rw [hcodes] at hviable
  have htext : codes ++ c :: rest = before ++ key.codes ++ rest := by
    rw [← hcodes, List.append_assoc]
    rfl
  refine ⟨before, key, rest, htext, rfl, hsuffix, hviable.of_append, hviable, ?_, ?_⟩
  · refine parseSingle_eq_ok_iff.2 ⟨?_, Grammar.admits_bus_iff.1 hadmits, rfl⟩
    rw [← String.utf8Len_toList, toList_text]
    rw [htext, String.utf8Len_append, String.utf8Len_append] at hlen
    omega
  · rw [← isBasic_eq_true_iff]
    exact Bool.eq_false_iff.1 hkey

end Progress

/-! ## The fault of a signature -/

theorem unknownAt_append_iff {before after : List Char} {c code : Char} :
    UnknownAt (before ++ c :: after) (utf8Len before) code ↔
      Grammar.relaxed.Viable (before ++ ['i']) ∧ c ∉ alphabet ∧ code = c := by
  constructor
  · rintro ⟨before', after', htext, hlen, hcode, hviable⟩
    have hbefore : before' = before :=
      eq_of_utf8Len_eq ⟨code :: after', htext.symm⟩ ⟨c :: after, rfl⟩ hlen
    subst hbefore
    obtain ⟨rfl, -⟩ := List.cons.inj (List.append_cancel_left htext)
    exact ⟨hviable, hcode, rfl⟩
  · rintro ⟨hviable, hcode, rfl⟩
    exact ⟨before, after, rfl, rfl, hcode, hviable⟩

theorem not_unknownAt_end (text : List Char) (code : Char) :
    ¬ UnknownAt text (utf8Len text) code := by
  rintro ⟨before, after, rfl, hlen, -, -⟩
  have := code.utf8Size_pos
  simp at hlen
  omega

/-- A run stops at a character, or at the end of the text. -/
theorem read_eq_error {g : Grammar} {text : List Char} {fault : Fault}
    (h : read g text = .error fault) :
    (∃ before c after p, text = before ++ c :: after ∧
      before.foldlM (Progress.step g) .start = .ok p ∧ p.accept g c = .error fault) ∨
    ∃ p, text.foldlM (Progress.step g) .start = .ok p ∧ p.finish = .error fault := by
  rcases bind_eq_error_iff.1 h with h | h
  · obtain ⟨before, c, after, p, htext, hrun, hstep⟩ := exists_of_foldlM_eq_error h
    exact .inl ⟨before, c, after, p, htext, hrun, Progress.step_eq_error_iff.1 hstep⟩
  · exact .inr h

/-- A fault that is not about a key stands behind the longest viable beginning. -/
theorem isGreatest_of_read_eq_error {text : List Char} {fault : Fault}
    (h : read .bus text = .error fault) (hcause : fault.cause ≠ .keyNotBasic) :
    IsGreatest (viableLengths text) fault.position ∧
      ∀ code, fault.cause = .unknownCode code ↔ UnknownAt text fault.position code := by
  rcases read_eq_error h with ⟨before, c, after, p, rfl, hrun, h⟩ | ⟨p, hrun, h⟩
  · obtain ⟨hposition, hviable, hc, hcode⟩ := Progress.viable_of_accept_eq_error hrun h hcause
    rw [hposition]
    exact ⟨Progress.isGreatest_viableLengths hviable hc,
      fun code ↦ (hcode code).trans unknownAt_append_iff.symm⟩
  · obtain ⟨hposition, -, hcode⟩ := Progress.finish_eq_error h
    have hviable : Grammar.relaxed.Viable text :=
      (Progress.viable_iff_exists_run Grammar.isKey_relaxed).2
        ⟨p, Progress.run_relaxed_of_run_bus hrun⟩
    rw [hposition, (Progress.describes_of_run hrun).2]
    refine ⟨⟨⟨text, List.prefix_rfl, hviable, rfl⟩, ?_⟩, ?_⟩
    · rintro _ ⟨codes, hcodes, -, rfl⟩
      exact String.utf8Len_le_of_prefix hcodes
    · intro code
      constructor
      · intro h
        exact absurd h (hcode code)
      · intro h
        exact absurd h (not_unknownAt_end text code)

theorem keyRefusedAt_of_read_eq_error {text : List Char} {fault : Fault}
    (hlen : utf8Len text ≤ 255) (h : read .bus text = .error fault)
    (hcause : fault.cause = .keyNotBasic) : KeyRefusedAt text fault.position := by
  rcases read_eq_error h with ⟨before, c, after, p, rfl, hrun, h⟩ | ⟨p, hrun, h⟩
  · exact Progress.keyRefusedAt_of_accept_eq_error after hrun h hcause hlen
  · exact absurd hcause (Progress.finish_eq_error h).2.1

/-- A text is viable as a whole if and only if no shorter beginning is the longest viable one. -/
theorem eq_utf8Len_iff_viable {text : List Char} {n : Nat} (h : IsGreatest (viableLengths text) n) :
    n = utf8Len text ↔ Grammar.relaxed.Viable text := by
  obtain ⟨⟨codes, hcodes, hviable, rfl⟩, hgreatest⟩ := h
  constructor
  · intro hlen
    rwa [eq_of_utf8Len_eq hcodes List.prefix_rfl hlen] at hviable
  · intro htext
    apply Nat.le_antisymm
    · exact String.utf8Len_le_of_prefix hcodes
    · exact hgreatest ⟨text, List.prefix_rfl, htext, rfl⟩

/-- Where and why a signature is refused. A key that is no basic type is blamed at its first
character. Any other fault stands behind the longest viable beginning, which is the whole signature
if it ended too early, and a character there is unknown if a type may start there and no signature
holds the character. -/
theorem parse_error_location {signature : String} {error : Error}
    (hlen : signature.utf8ByteSize ≤ 255) (h : parse signature = .error error) :
    ∃ position cause, error = .unreadable signature ⟨position, cause⟩ ∧
      (cause = .keyNotBasic → KeyRefusedAt signature.toList position) ∧
      (cause ≠ .keyNotBasic →
        IsGreatest (viableLengths signature.toList) position ∧
        (position = signature.utf8ByteSize ↔ Grammar.relaxed.Viable signature.toList) ∧
        ∀ code, cause = .unknownCode code ↔ UnknownAt signature.toList position code) := by
  have hshort : ¬ maxLength < signature.utf8ByteSize := Nat.not_lt.2 hlen
  rw [parse, if_neg hshort, mapError_eq_error_iff] at h
  obtain ⟨⟨position, cause⟩, hread, rfl⟩ := h
  rw [← String.utf8Len_toList] at hlen ⊢
  refine ⟨position, cause, rfl, keyRefusedAt_of_read_eq_error hlen hread, ?_⟩
  intro hcause
  obtain ⟨hgreatest, hcode⟩ := isGreatest_of_read_eq_error hread hcause
  exact ⟨hgreatest, eq_utf8Len_iff_viable hgreatest, hcode⟩

/-- A variant is refused as a key, and behind a key a question mark is unknown. -/
theorem parse_error_location_in_entries :
    parse "(a\x7bvs\x7d" = .error (.unreadable "(a\x7bvs\x7d" ⟨3, .keyNotBasic⟩) ∧
      KeyRefusedAt "(a\x7bvs\x7d".toList 3 ∧
      parse "(a\x7bs?" = .error (.unreadable "(a\x7bs?" ⟨4, .unknownCode '?'⟩) ∧
      IsGreatest (viableLengths "(a\x7bs?".toList) 4 ∧ UnknownAt "(a\x7bs?".toList 4 '?' := by
  have hkey : parse "(a\x7bvs\x7d" = .error (.unreadable "(a\x7bvs\x7d" ⟨3, .keyNotBasic⟩) := by
    rfl
  have hcode : parse "(a\x7bs?" = .error (.unreadable "(a\x7bs?" ⟨4, .unknownCode '?'⟩) := by
    rfl
  obtain ⟨_, _, ⟨⟩, hrefused, -⟩ := parse_error_location (by decide) hkey
  obtain ⟨_, _, ⟨⟩, -, hblocked⟩ := parse_error_location (by decide) hcode
  obtain ⟨hgreatest, -, hunknown⟩ := hblocked (by simp)
  exact ⟨hkey, hrefused rfl, hcode, hgreatest, (hunknown '?').1 rfl⟩

end Introspection.Signature
