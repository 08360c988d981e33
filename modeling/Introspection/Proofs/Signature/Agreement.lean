import Introspection.Proofs.Signature.Faults
import Introspection.Proofs.Signature.Visits

/-!
# Descents and readers

The cursor of a descent counts what a reader keeps on its stack. A part of a descent agrees with a
reader if both get to the end of the same codes, or both refuse the same character for the same
reason. Agreement carries over from the parts to the whole.
-/

open String (utf8Len)

namespace Introspection

theorem Descriptor.utf8Size_of_mem_codes {d : Descriptor} {c : Char} (h : c ∈ d.codes) :
    c.utf8Size = 1 := by
  induction d with
  | primitive p =>
    rw [codes, List.mem_singleton] at h
    subst h
    cases p <;> rfl
  | array element ih =>
    rw [codes, List.mem_cons] at h
    rcases h with rfl | h
    · rfl
    · exact ih h
  | dictionary key value ihk ihv =>
    simp only [codes, List.mem_cons, List.mem_append, List.not_mem_nil, or_false] at h
    rcases h with rfl | rfl | (h | h) | rfl
    · rfl
    · rfl
    · exact ihk h
    · exact ihv h
    · rfl
  | struct members ih =>
    simp only [codes, codesAll_eq_flatMap, List.mem_cons, List.mem_append, List.mem_flatMap,
      List.not_mem_nil, or_false] at h
    rcases h with rfl | ⟨d, hd, h⟩ | rfl
    · rfl
    · exact ih d hd h
    · rfl

/-- Whatever is read of a text as a type makes the rest of it shorter. -/
theorem Descriptor.length_lt_length_codes_append (d : Descriptor) (rest : List Char) :
    rest.length < (d.codes ++ rest).length := by
  have hpos : 0 < d.codes.length := by cases d <;> simp [codes]
  rw [List.length_append]
  omega

namespace Signature

open Descriptor
open Text (Passed)

/-! ## Readers -/

namespace Progress

variable {p q : Progress} {c : Char} {codes rest : List Char} {fault : Fault}

/-- What a reader makes of the rest of a signature. -/
def readOn (p : Progress) (rest : List Char) : Except Fault (List Descriptor) := do
  let q ← rest.foldlM (step .bus) p
  q.finish

theorem readOn_of_step (h : p.step .bus c = .ok q) : p.readOn (c :: rest) = q.readOn rest := by
  rw [readOn, List.foldlM_cons, h]
  rfl

theorem readOn_of_refused (h : p.accept .bus c = .error fault) :
    p.readOn (c :: rest) = .error fault := by
  rw [readOn, List.foldlM_cons, step_eq_error_iff.2 h]
  rfl

/-- A reader at a place where a type may start. -/
abbrev atType (n : Nat) (frames : List Frame) (types : List Descriptor) : Progress :=
  ⟨n, none, frames, types⟩

theorem readOn_codes {n : Nat} {frames : List Frame} {types : List Descriptor} {d : Descriptor}
    (h : Grammar.bus.Fits frames d) (rest : List Char) :
    readOn (.atType n frames types) (d.codes ++ rest) =
      (do let q ← deliver .bus ⟨n + utf8Len d.codes, none, frames, types⟩ d frames
          q.readOn rest) := by
  rw [readOn, List.foldlM_append, foldlM_codes h.wellFormed h, bind_assoc]
  rfl

/-- The cursor of a descent that has come as far as the reader. -/
def cursor (p : Progress) : Cursor :=
  ⟨p.position, p.arrays, p.structs⟩

/-- The reader stands between two characters of the signature. -/
structure Ready (signature : String) (p : Progress) (rest : List Char) : Prop where
  passed : Passed signature p.cursor.position rest
  arrays : openArrays p.frames ≤ 32
  structs : openStructs p.frames ≤ 32

theorem Ready.safe {signature : String} (h : p.Ready signature rest) : p.cursor.Safe signature :=
  Cursor.safe_of_passed h.passed (h.arrays.trans (by decide)) (h.structs.trans (by decide))

theorem Ready.pass_codes {signature : String} {n : Nat} {frames frames' : List Frame}
    {types types' : List Descriptor} {d : Descriptor}
    (h : (Progress.atType n frames types).Ready signature (d.codes ++ rest))
    (ha : openArrays frames = openArrays frames') (hs : openStructs frames = openStructs frames') :
    (Progress.atType (n + utf8Len d.codes) frames' types').Ready signature rest :=
  ⟨h.passed.append fun _ hc ↦ utf8Size_of_mem_codes hc, ha ▸ h.arrays, hs ▸ h.structs⟩

end Progress

/-! ## Agreement -/

/-- A part of a descent agrees with a result: it passes the codes of what it reads, or else the
result is a fault, and the part refuses the rest of the signature with this fault. -/
inductive Agrees {α : Type} (signature : String) (Reads : α → List Char → Prop) (m : Descent α)
    (c : Cursor) (result : Except Fault (List Descriptor)) (rest : List Char) : Prop
  | complete {a : α} {codes after : List Char} : rest = codes ++ after → Reads a codes →
      Runs signature m c (.ok a) (c.pass codes) → Agrees signature Reads m c result rest
  | refused {fault : Fault} {c' : Cursor} : result = .error fault →
      Runs signature m c (.error fault) c' → c.arrays ≤ c'.arrays →
      Agrees signature Reads m c result rest

namespace Agrees

variable {α β : Type} {signature : String} {Reads : α → List Char → Prop}
  {Reads' : β → List Char → Prop} {m : Descent α} {f : α → Descent β} {c : Cursor}
  {result : Except Fault (List Descriptor)} {rest : List Char}

theorem bind (h : Agrees signature Reads m c result rest)
    (hf : ∀ {a codes after}, rest = codes ++ after → Reads a codes →
      Agrees signature (fun b codes' ↦ Reads' b (codes ++ codes')) (f a) (c.pass codes) result
        after) :
    Agrees signature Reads' (m >>= f) c result rest := by
  cases h with
  | refused hresult hrun harrays => exact .refused hresult hrun.bind_error harrays
  | complete hrest hreads hrun =>
    cases hf hrest hreads with
    | refused hresult hrun' harrays => exact .refused hresult (hrun.bind hrun') harrays
    | complete hrest' hreads' hrun' =>
      rw [Cursor.pass_pass] at hrun'
      rw [hrest', ← List.append_assoc] at hrest
      exact .complete hrest hreads' (hrun.bind hrun')

theorem after {a : α} (hm : Runs signature m c (.ok a) c)
    (h : Agrees signature Reads' (f a) c result rest) :
    Agrees signature Reads' (m >>= f) c result rest := by
  cases h with
  | refused hresult hrun harrays => exact .refused hresult (hm.bind hrun) harrays
  | complete hrest hreads hrun => exact .complete hrest hreads (hm.bind hrun)

/-- A container is passed with its first code, and left behind its last one. -/
theorem container {depth : Depth} {code : Char} {g : α → β}
    (h : Passed signature c.position (code :: rest)) (hcode : code.utf8Size = 1)
    (hroom : c.depth depth < 32) (hm : Agrees signature Reads m (c.opened depth) result rest)
    (hg : ∀ {a codes}, Reads a codes → Reads' (g a) (code :: codes)) :
    Agrees signature Reads' (do
      Descent.enter depth
      Descent.advance
      let a ← m
      Descent.leave depth
      return g a) c result (code :: rest) := by
  cases hm with
  | refused hresult hrun harrays =>
    exact .refused hresult (.opens h hcode hroom hrun.bind_error)
      ((c.arrays_le_opened depth).trans harrays)
  | complete hrest hreads hrun =>
    subst hrest
    exact .complete rfl (hg hreads)
      (.opens h hcode hroom (hrun.bind ((Runs.leave_opened depth hcode _).bind (.pure _))))

/-- One container more than allowed is refused. -/
theorem tooDeep {depth : Depth} (hfull : c.depth depth = 32)
    (hresult : result = .error ⟨c.position, depth.exceeded⟩) :
    Agrees signature Reads (do Descent.enter depth; Descent.advance; m) c result rest := by
  have harrays : c.arrays ≤ (c.setDepth depth 33).arrays := by
    cases depth with
    | arrays => exact hfull.le.trans (Nat.le_succ 32)
    | structs => exact Nat.le_refl _
  exact .refused hresult (.bind_error (.enter_refused hfull)) harrays

/-- Nothing is passed. -/
theorem complete_here {a : α} (hreads : Reads a []) (hm : Runs signature m c (.ok a) c) :
    Agrees signature Reads m c result rest :=
  .complete (List.nil_append rest).symm hreads hm

/-- What stands at the cursor is refused. -/
theorem refused_here {cause : Cause} (hresult : result = .error ⟨c.position, cause⟩)
    (hm : Runs signature m c (.error ⟨c.position, cause⟩) c) :
    Agrees signature Reads m c result rest :=
  .refused hresult hm (Nat.le_refl _)

end Agrees

/-- What is left to be refused where a type must start. The other faults have been ruled out by
whoever asks for a type. -/
structure Progress.Asks (p : Progress) (rest : List Char) : Prop where
  ends : rest = [] → p.finish = p.fail .typeExpected
  parenthesis : rest.head? = some ')' → p.closeStruct .bus = p.fail .strayParenthesis
  brace : rest.head? = some '}' → p.closeEntry .bus = p.fail .strayBrace
  entry : rest.head? = some '{' → p.openEntry .bus = p.fail .strayEntry

/-- The codes of a type that the bus allows below some open containers. -/
def ReadsType (frames : List Frame) (d : Descriptor) (codes : List Char) : Prop :=
  codes = d.codes ∧ Grammar.bus.Fits frames d

/-- A descent for a type agrees with readers, as long as the rest of the signature is short. -/
def TypeAgrees (signature : String) (type : Descent Descriptor) (fuel : Nat) : Prop :=
  ∀ {n frames types rest}, rest.length < fuel →
    (Progress.atType n frames types).Ready signature rest →
    (Progress.atType n frames types).Asks rest →
    Agrees signature (ReadsType frames) type (Progress.atType n frames types).cursor
      ((Progress.atType n frames types).readOn rest) rest

end Signature

end Introspection
