import Introspection.Proofs.Signature.Acceptance

/-!
# Joined signatures

Behind complete types a signature is read as if it stood alone: no container is open, so what has
been read before matters only for the positions and for the types that are already known. Both are
kept apart from everything else that is known, from each character to the next.
-/

open String (utf8Len)

namespace Introspection.Signature

/-! ## What stands behind other types -/

def Fault.behind (n : Nat) (fault : Fault) : Fault :=
  ⟨n + fault.position, fault.cause⟩

/-- Only a dictionary without its key remembers a position. -/
def Frame.behind (n : Nat) : Frame → Frame
  | array => array
  | key start => key (n + start)
  | value held => value held
  | struct members => struct members

/-- The outcome behind a text of the given length, where a result is put behind what is known. -/
def outcomeBehind {α β : Type} (n : Nat) (f : α → β) : Except Fault α → Except Fault β
  | .ok a => .ok (f a)
  | .error fault => .error (fault.behind n)

theorem outcomeBehind_bind {α β γ δ : Type} {n : Nat} {f : α → β} {f' : γ → δ}
    {x : Except Fault α} {k : α → Except Fault γ} {k' : β → Except Fault δ}
    (h : ∀ a, k' (f a) = outcomeBehind n f' (k a)) :
    (outcomeBehind n f x >>= k') = outcomeBehind n f' (x >>= k) := by
  cases x with
  | ok a => exact h a
  | error fault => rfl

namespace Progress

/-- The progress in a text that stands behind others, which hold the given types. -/
def behind (n : Nat) (earlier : List Descriptor) (p : Progress) : Progress where
  position := n + p.position
  entry := p.entry
  frames := p.frames.map (Frame.behind n)
  types := p.types ++ earlier

variable {g : Grammar} {n : Nat} {earlier : List Descriptor}

theorem arrays_behind (n : Nat) (earlier : List Descriptor) (p : Progress) :
    (p.behind n earlier).arrays = p.arrays := by
  rw [arrays, behind, List.countP_map]
  apply List.countP_congr
  intro frame _
  cases frame <;> rfl

theorem structs_behind (n : Nat) (earlier : List Descriptor) (p : Progress) :
    (p.behind n earlier).structs = p.structs := by
  rw [structs, behind, List.countP_map]
  apply List.countP_congr
  intro frame _
  cases frame <;> rfl

/-! ## One character -/

theorem deliver_behind (p : Progress) (d : Descriptor) (frames : List Frame) :
    (p.behind n earlier).deliver g d (frames.map (Frame.behind n)) =
      outcomeBehind n (behind n earlier) (p.deliver g d frames) := by
  induction frames generalizing d with
  | nil => rfl
  | cons frame frames ih =>
    cases frame with
    | array => exact ih (.array d)
    | key start =>
      simp only [List.map_cons, Frame.behind, deliver]
      split <;> rfl
    | value key => rfl
    | struct members => rfl

theorem openArray_behind (p : Progress) :
    (p.behind n earlier).openArray g = outcomeBehind n (behind n earlier) (p.openArray g) := by
  rw [openArray, openArray, arrays_behind]
  split <;> rfl

theorem openEntry_behind (p : Progress) :
    (p.behind n earlier).openEntry g = outcomeBehind n (behind n earlier) (p.openEntry g) := by
  obtain ⟨position, entry, frames, types⟩ := p
  cases frames with
  | nil => rfl
  | cons frame frames =>
    cases frame with
    | array =>
      have hstructs := structs_behind n earlier ⟨position, entry, .array :: frames, types⟩
      simp only [behind, List.map_cons, Frame.behind] at hstructs
      simp only [openEntry, behind, List.map_cons, Frame.behind, hstructs]
      split <;> rfl
    | key start => rfl
    | value key => rfl
    | struct members => rfl

theorem openStruct_behind (p : Progress) :
    (p.behind n earlier).openStruct g = outcomeBehind n (behind n earlier) (p.openStruct g) := by
  rw [openStruct, openStruct, structs_behind]
  split <;> rfl

theorem closeEntry_behind (p : Progress) :
    (p.behind n earlier).closeEntry g = outcomeBehind n (behind n earlier) (p.closeEntry g) := by
  obtain ⟨position, entry, frames, types⟩ := p
  cases entry with
  | some entry => exact deliver_behind ..
  | none =>
    cases frames with
    | nil => rfl
    | cons frame frames => cases frame <;> rfl

theorem closeStruct_behind (p : Progress) :
    (p.behind n earlier).closeStruct g = outcomeBehind n (behind n earlier) (p.closeStruct g) := by
  obtain ⟨position, entry, frames, types⟩ := p
  cases frames with
  | nil => rfl
  | cons frame frames =>
    cases frame with
    | struct members =>
      cases members with
      | nil => rfl
      | cons d members => exact deliver_behind ..
    | array => rfl
    | key start => rfl
    | value key => rfl

theorem readPrimitive_behind (p : Progress) (c : Char) :
    (p.behind n earlier).readPrimitive g c =
      outcomeBehind n (behind n earlier) (p.readPrimitive g c) := by
  unfold readPrimitive
  split
  · exact deliver_behind ..
  · rfl

theorem accept_behind (p : Progress) (c : Char) :
    (p.behind n earlier).accept g c = outcomeBehind n (behind n earlier) (p.accept g c) := by
  have hentry : (p.behind n earlier).entry = p.entry := rfl
  unfold accept
  rw [hentry]
  split
  · exact closeEntry_behind p
  split
  · rfl
  split
  · exact openArray_behind p
  split
  · exact openEntry_behind p
  split
  · exact openStruct_behind p
  split
  · exact closeStruct_behind p
  · exact readPrimitive_behind p c

theorem step_behind (p : Progress) (c : Char) :
    (p.behind n earlier).step g c = outcomeBehind n (behind n earlier) (p.step g c) := by
  rw [step, step, accept_behind]
  apply outcomeBehind_bind
  intro q
  have hposition : (p.behind n earlier).position + c.utf8Size = n + (p.position + c.utf8Size) :=
    Nat.add_assoc ..
  rw [hposition]
  rfl

/-! ## Runs -/

theorem run_behind (p : Progress) (codes : List Char) :
    codes.foldlM (step g) (p.behind n earlier) =
      outcomeBehind n (behind n earlier) (codes.foldlM (step g) p) := by
  induction codes generalizing p with
  | nil => rfl
  | cons c codes ih =>
    rw [List.foldlM_cons, List.foldlM_cons, step_behind]
    exact outcomeBehind_bind ih

theorem finish_behind (p : Progress) :
    (p.behind n earlier).finish = outcomeBehind n (earlier.reverse ++ ·) p.finish := by
  obtain ⟨position, entry, frames, types⟩ := p
  cases entry with
  | some entry => rfl
  | none =>
    cases frames with
    | nil => simp [finish, behind, outcomeBehind]
    | cons frame frames => cases frame <;> rfl

/-- After some complete types reading starts anew. -/
theorem run_of_read_eq_ok {codes : List Char} {types : List Descriptor}
    (h : read g codes = .ok types) :
    codes.foldlM (step g) start = .ok (start.behind (utf8Len codes) types.reverse) := by
  obtain ⟨htypes, rfl⟩ := read_eq_ok_iff.1 h
  have hrun := foldlM_codesAll (n := 0) [] htypes
  simpa [start, behind] using hrun

end Progress

theorem read_append {g : Grammar} {codes : List Char} {types : List Descriptor}
    (h : read g codes = .ok types) (codes' : List Char) :
    read g (codes ++ codes') = outcomeBehind (utf8Len codes) (types ++ ·) (read g codes') := by
  rw [read, List.foldlM_append, Progress.run_of_read_eq_ok h, ok_bind, Progress.run_behind]
  apply outcomeBehind_bind
  intro p
  rw [Progress.finish_behind, List.reverse_reverse]

/-! ## Parsing -/

theorem parse_eq_read {signature : String} (h : signature.utf8ByteSize ≤ 255) :
    parse signature = (read .bus signature.toList).mapError (.unreadable signature) :=
  if_neg (Nat.not_lt.2 h)

/-- Behind a signature another one is read as if it stood alone, as long as both together are not
too long: its types come after those of the first one, and a fault stays the same but for its
position, which counts the first signature as well. -/
theorem parse_append {signature signature' : String} {types : List Descriptor}
    (h : parse signature = .ok types) (hlen : (signature ++ signature').utf8ByteSize ≤ 255) :
    (∀ types', parse signature' = .ok types' →
      parse (signature ++ signature') = .ok (types ++ types')) ∧
    ∀ error, parse signature' = .error error →
      ∃ position cause, error = .unreadable signature' ⟨position, cause⟩ ∧
        parse (signature ++ signature') =
          .error (.unreadable (signature ++ signature')
            ⟨signature.utf8ByteSize + position, cause⟩) := by
  have hlengths : signature.utf8ByteSize ≤ 255 ∧ signature'.utf8ByteSize ≤ 255 := by
    rw [String.utf8ByteSize_append] at hlen
    omega
  have hread : read .bus signature.toList = .ok types := by
    rwa [parse_eq_read hlengths.1, mapError_eq_ok_iff] at h
  have hboth : parse (signature ++ signature') =
      (outcomeBehind signature.utf8ByteSize (types ++ ·) (read .bus signature'.toList)).mapError
        (.unreadable (signature ++ signature')) := by
    rw [parse_eq_read hlen, String.toList_append, read_append hread, String.utf8Len_toList]
  rw [hboth, parse_eq_read hlengths.2]
  constructor
  · intro types' htypes'
    rw [mapError_eq_ok_iff] at htypes'
    rw [htypes']
    rfl
  · intro error herror
    obtain ⟨⟨position, cause⟩, hfault, rfl⟩ := mapError_eq_error_iff.1 herror
    rw [hfault]
    exact ⟨position, cause, rfl, rfl⟩

/-- A dictionary whose key is refused, behind an array and a number. -/
theorem parse_append_refused_key :
    parse "aui" = .ok [.array (.primitive .uint32), .primitive .int32] ∧
      ("aui" ++ "a\x7bvs\x7d").utf8ByteSize ≤ 255 ∧
      parse "a\x7bvs\x7d" = .error (.unreadable "a\x7bvs\x7d" ⟨2, .keyNotBasic⟩) ∧
      parse ("aui" ++ "a\x7bvs\x7d") =
        .error (.unreadable ("aui" ++ "a\x7bvs\x7d") ⟨5, .keyNotBasic⟩) ∧
      parse ("aui" ++ "(sv)") =
        .ok [.array (.primitive .uint32), .primitive .int32,
          .struct [.primitive .string, .primitive .variant]] := by
  have hfirst : parse "aui" = .ok [.array (.primitive .uint32), .primitive .int32] := by rfl
  have hrefused : parse "a\x7bvs\x7d" = .error (.unreadable "a\x7bvs\x7d" ⟨2, .keyNotBasic⟩) := by
    rfl
  have hstruct : parse "(sv)" = .ok [.struct [.primitive .string, .primitive .variant]] := by rfl
  have hlen : ("aui" ++ "a\x7bvs\x7d").utf8ByteSize ≤ 255 := by decide
  obtain ⟨_, _, ⟨⟩, hfault⟩ := (parse_append hfirst hlen).2 _ hrefused
  exact ⟨hfirst, hlen, hrefused, hfault, (parse_append hfirst (by decide)).1 _ hstruct⟩

end Introspection.Signature
