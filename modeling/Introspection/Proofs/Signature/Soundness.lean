import Introspection.Proofs.Signature.Completeness
import Introspection.Proofs.Signature.Steps
import Mathlib.Data.List.Induction

/-!
# Writing what is read

Whatever has been read is written back from what is known of it, and everything held fits where it
stands. This carries over from each character to the next, so whatever is read is a sentence.
-/

open String (utf8Len)

namespace Introspection.Signature

open Descriptor

namespace Progress

variable {g : Grammar} {p q : Progress} {codes : List Char}

/-! ## One character -/

/-- A type that fits is taken up by the containers it is handed to. -/
theorem describes_of_deliver {d : Descriptor} {frames : List Frame}
    (htypes : ∀ d ∈ p.types, g.Admits d) (hframes : Stacked g (codesAll p.types.reverse) frames)
    (hd : g.Fits frames d) (h : p.deliver g d frames = .ok q) :
    q.Describes g (codesAll p.types.reverse ++ writtenFrames frames ++ d.codes) := by
  induction hframes generalizing d with
  | nil =>
    cases h
    refine .of_entry_eq_none rfl ?_ ?_ .nil
    · simp [writtenFrames, codesAll]
    · exact List.forall_mem_cons.2 ⟨Grammar.fits_nil_iff.1 hd, htypes⟩
  | array _ _ ih =>
    have := ih (Grammar.fits_array_iff.2 hd) h
    simpa [writtenFrames, Frame.written, Descriptor.codes] using this
  | @key frames start hframes _ _ _ _ =>
    unfold deliver at h
    split at h
    · next hkey =>
      cases h
      have hheld : g.Fits (.value d :: frames) d :=
        (Grammar.fits_congr (by simp) (by simp)).1 hd
      refine .of_entry_eq_none rfl ?_ htypes (.value hframes hkey hheld)
      simp [writtenFrames, Frame.written]
    · cases h
  | @value frames key hframes hkey hk _ =>
    cases h
    refine ⟨?_, htypes, hframes, ?_⟩
    · simp [written, writtenFrames, writtenEntry, Frame.written]
    · rintro _ _ ⟨⟩
      have hk' : g.Fits (.key 0 :: frames) key := (Grammar.fits_congr (by simp) (by simp)).1 hk
      exact (Grammar.fits_dictionary_iff 0).2 ⟨hkey, hk', hd⟩
  | @struct frames members hframes hs hmembers _ =>
    cases h
    have hall : ∀ d' ∈ d :: members, g.Fits (.struct members :: frames) d' :=
      List.forall_mem_cons.2 ⟨hd, hmembers⟩
    refine .of_entry_eq_none rfl ?_ htypes (.struct hframes hs ?_)
    · simp [writtenFrames, Frame.written, codesAll]
    · intro d' hd'
      exact (Grammar.fits_congr (by simp) (by simp)).1 (hall d' hd')

theorem Describes.of_reads {c : Char} (hp : p.Describes g codes)
    (hreads : p.Reads g codes c (.ok q)) : q.Describes g (codes ++ [c]) := by
  generalize hresult : (.ok q : Except Fault Progress) = result at hreads
  cases hreads with
  | opens hq =>
    cases hresult
    exact hq
  | completes hframes hd hcodes =>
    rw [← hcodes]
    exact describes_of_deliver hp.types hframes hd hresult.symm
  | refused => cases hresult

theorem Describes.step {c : Char} (hp : p.Describes g codes) (hn : p.position = utf8Len codes)
    (h : p.step g c = .ok q) :
    q.Describes g (codes ++ [c]) ∧ q.position = utf8Len (codes ++ [c]) := by
  obtain ⟨q', hq', hq⟩ := bind_eq_ok_iff.1 h
  cases hq
  have hd := hp.of_reads (hq' ▸ hp.accept hn c)
  refine ⟨⟨hd.written, hd.types, hd.frames, hd.entry⟩, ?_⟩
  rw [String.utf8Len_append, ← hn, String.utf8Len_cons, String.utf8Len_nil, Nat.zero_add]

/-! ## Runs -/

theorem describes_start : start.Describes g [] :=
  .of_entry_eq_none rfl rfl (by simp [start]) .nil

/-- A run is described by what it has read, and stands behind it. -/
theorem describes_of_run (h : codes.foldlM (step g) start = .ok p) :
    p.Describes g codes ∧ p.position = utf8Len codes := by
  induction codes using List.reverseRecOn generalizing p with
  | nil =>
    cases h
    exact ⟨describes_start, rfl⟩
  | append_singleton codes c ih =>
    have hrun := h
    rw [List.foldlM_append, bind_eq_ok_iff] at hrun
    obtain ⟨q, hq, -⟩ := hrun
    rw [run_append_singleton hq] at h
    obtain ⟨hd, hn⟩ := ih hq
    exact hd.step hn h

/-- A text that may end here is a sentence. -/
theorem Describes.finish {types : List Descriptor} (hp : p.Describes g codes)
    (h : p.finish = .ok types) : (∀ d ∈ types, g.Admits d) ∧ codesAll types = codes := by
  unfold Progress.finish at h
  split at h
  · cases h
  · next he hf =>
    cases h
    constructor
    · intro d hd
      exact hp.types d (List.mem_reverse.1 hd)
    · simpa [Progress.written, writtenFrames, writtenEntry, he, hf] using hp.written
  · cases h
  · cases h

end Progress

/-- Reading accepts the sentences of a grammar, each with the types it was written from. -/
theorem read_eq_ok_iff {g : Grammar} {codes : List Char} {types : List Descriptor} :
    read g codes = .ok types ↔ (∀ d ∈ types, g.Admits d) ∧ codesAll types = codes := by
  constructor
  · intro h
    obtain ⟨p, hp, hfinish⟩ := bind_eq_ok_iff.1 h
    exact (Progress.describes_of_run hp).1.finish hfinish
  · rintro ⟨htypes, rfl⟩
    exact read_codesAll htypes

end Introspection.Signature
