import Introspection.Proofs.Signature.Agreement

/-!
# Descents

A descent into a container and a reader that keeps the container on its stack come to the same
result, so a descent reads the types that a signature holds. Types are shorter than the texts they
stand in, which is why every descent ends.
-/

open String (utf8Len)

namespace Introspection.Signature

open Descriptor

/-! ## Containers -/

section Containers

variable {signature : String} {type : Descent Descriptor} {fuel n : Nat} {frames : List Frame}
  {types : List Descriptor} {rest : List Char}

theorem cursor_eq (n : Nat) (e : Option (Descriptor × Descriptor)) (frames : List Frame)
    (types : List Descriptor) :
    (⟨n, e, frames, types⟩ : Progress).cursor = ⟨n, openArrays frames, openStructs frames⟩ := rfl

theorem opened_array : (Progress.atType n frames types).cursor.opened .arrays =
    (Progress.atType (n + 1) (.array :: frames) types).cursor := by
  simp [cursor_eq, Cursor.opened, Cursor.setDepth, Cursor.depth, Nat.add_comm]

theorem opened_entry : (Progress.atType n (.array :: frames) types).cursor.opened .structs =
    (Progress.atType (n + 1) (.key (n + 1) :: frames) types).cursor := by
  simp [cursor_eq, Cursor.opened, Cursor.setDepth, Cursor.depth, Nat.add_comm]

theorem opened_struct : (Progress.atType n frames types).cursor.opened .structs =
    (Progress.atType (n + 1) (.struct [] :: frames) types).cursor := by
  simp [cursor_eq, Cursor.opened, Cursor.setDepth, Cursor.depth, Nat.add_comm]

theorem half_agrees {missing : Cause} (ih : TypeAgrees signature type fuel)
    (hlen : rest.length < fuel)
    (h : (Progress.atType n frames types).Ready signature rest)
    (hmissing : (Progress.atType n frames types).closeEntry .bus = .error ⟨n, missing⟩)
    (hasks : rest.head? ≠ some '}' → (Progress.atType n frames types).Asks rest) :
    Agrees signature (ReadsType frames) (Descent.half signature type missing)
      (Progress.atType n frames types).cursor
      ((Progress.atType n frames types).readOn rest) rest := by
  rw [Descent.half]
  by_cases hbrace : rest.head? = some '}'
  · obtain ⟨after, rfl⟩ := List.head?_eq_some_iff.1 hbrace
    exact .refused_here (Progress.readOn_of_refused hmissing)
      (.bind_error (.refuseAt_refused h.passed rfl hbrace))
  · exact .after (.refuseAt h.passed rfl hbrace) (ih hlen h (hasks hbrace))

theorem key_agrees (ih : TypeAgrees signature type fuel) (hlen : rest.length < fuel)
    (h : (Progress.atType n (.key n :: frames) types).Ready signature rest) :
    Agrees signature (fun d codes ↦ codes = d.codes ∧ Grammar.bus.Fits (.key n :: frames) d ∧
        Grammar.bus.isKey d = true)
      (Descent.key signature type) (Progress.atType n (.key n :: frames) types).cursor
      ((Progress.atType n (.key n :: frames) types).readOn rest) rest := by
  rw [Descent.key]
  refine .after .cursor (.bind (half_agrees ih hlen h rfl fun hbrace ↦
    ⟨fun _ ↦ rfl, fun _ ↦ rfl, fun h ↦ absurd h hbrace, fun _ ↦ rfl⟩) ?_)
  rintro d codes after rfl ⟨rfl, hfits⟩
  cases hkey : d.isBasic with
  | true =>
    exact .complete_here ⟨List.append_nil _, hfits, hkey⟩
      ((Runs.requireBasic hkey).bind (.pure d))
  | false =>
    have hdeliver : Progress.deliver .bus ⟨n + utf8Len d.codes, none, .key n :: frames, types⟩ d
        (.key n :: frames) = .error ⟨n, .keyNotBasic⟩ := if_neg (by simp [Grammar.bus, hkey])
    refine .refused ?_ (Runs.bind_error (Runs.requireBasic_refused hkey h.safe
      (Nat.le_add_right ..))) (Nat.le_refl _)
    rw [Progress.readOn_codes hfits, hdeliver]
    rfl

theorem value_agrees {key : Descriptor} (ih : TypeAgrees signature type fuel)
    (hlen : rest.length < fuel)
    (h : (Progress.atType n (.value key :: frames) types).Ready signature rest) :
    Agrees signature
      (fun d codes ↦ codes = d.codes ++ ['}'] ∧ Grammar.bus.Fits (.value key :: frames) d)
      (Descent.value signature type) (Progress.atType n (.value key :: frames) types).cursor
      ((Progress.atType n (.value key :: frames) types).readOn rest) rest := by
  rw [Descent.value]
  refine .bind (half_agrees ih hlen h rfl fun hbrace ↦
    ⟨fun _ ↦ rfl, fun _ ↦ rfl, fun h ↦ absurd h hbrace, fun _ ↦ rfl⟩) ?_
  rintro d codes after rfl ⟨rfl, hfits⟩
  have hread : (Progress.atType n (.value key :: frames) types).readOn (d.codes ++ after) =
      (⟨n + utf8Len d.codes, some (key, d), frames, types⟩ : Progress).readOn after := by
    rw [Progress.readOn_codes hfits]
    rfl
  have hpassed := h.passed.append fun _ hc ↦ utf8Size_of_mem_codes hc
  cases after with
  | nil => exact .refused_here hread (.bind_error (.closeEntry_missing hpassed))
  | cons code after =>
    by_cases hcode : code = '}'
    · subst hcode
      exact .complete (List.singleton_append ..).symm ⟨rfl, hfits⟩
        ((Runs.closeEntry hpassed).bind (.pure d))
    · have hrefused : (⟨n + utf8Len d.codes, some (key, d), frames, types⟩ : Progress).accept .bus
          code = .error ⟨n + utf8Len d.codes, .surplusType⟩ := if_neg hcode
      exact .refused_here (hread.trans (Progress.readOn_of_refused hrefused))
        (.bind_error (.closeEntry_surplus hpassed hcode))

theorem halves_agrees (ih : TypeAgrees signature type fuel) (hlen : rest.length < fuel)
    (h : (Progress.atType n (.key n :: frames) types).Ready signature rest) :
    Agrees signature
      (fun d codes ↦ d.codes = 'a' :: '{' :: codes ∧ Grammar.bus.Fits frames d)
      (Descent.halves signature type) (Progress.atType n (.key n :: frames) types).cursor
      ((Progress.atType n (.key n :: frames) types).readOn rest) rest := by
  rw [Descent.halves]
  refine .bind (key_agrees ih hlen h) ?_
  rintro key codes after rfl ⟨rfl, hkey, hbasic⟩
  have hread : (Progress.atType n (.key n :: frames) types).readOn (key.codes ++ after) =
      (Progress.atType (n + utf8Len key.codes) (.value key :: frames) types).readOn after := by
    have hdeliver : Progress.deliver .bus ⟨n + utf8Len key.codes, none, .key n :: frames, types⟩
        key (.key n :: frames) =
          .ok (.atType (n + utf8Len key.codes) (.value key :: frames) types) := if_pos hbasic
    rw [Progress.readOn_codes hkey, hdeliver]
    rfl
  have hready : (Progress.atType (n + utf8Len key.codes) (.value key :: frames) types).Ready
      signature after := h.pass_codes rfl rfl
  have hafter : after.length < fuel := (key.length_lt_length_codes_append after).trans hlen
  rw [hread]
  refine .bind (value_agrees ih hafter hready) ?_
  rintro value codes after' rfl ⟨rfl, hvalue⟩
  refine .complete_here ⟨?_, (Grammar.fits_dictionary_iff n).2 ⟨hbasic, hkey, hvalue⟩⟩ (.pure _)
  simp [codes]

theorem entry_agrees (ih : TypeAgrees signature type fuel) (hlen : rest.length < fuel)
    (h : (Progress.atType n (.array :: frames) types).Ready signature ('{' :: rest)) :
    Agrees signature (fun d codes ↦ d.codes = 'a' :: codes ∧ Grammar.bus.Fits frames d)
      (Descent.entry signature type) (Progress.atType n (.array :: frames) types).cursor
      ((Progress.atType n (.array :: frames) types).readOn ('{' :: rest)) ('{' :: rest) := by
  rw [Descent.entry]
  rcases Nat.lt_or_eq_of_le h.structs with hroom | hfull
  · have hopen : openStructs frames < 32 := by simpa using hroom
    have hready : (Progress.atType (n + 1) (.key (n + 1) :: frames) types).Ready signature
        rest := by
      refine ⟨h.passed.next rfl, h.arrays, ?_⟩
      simp
      omega
    have hhalves := halves_agrees ih hlen hready
    rw [← Progress.readOn_of_step (Progress.step_entry hopen), ← opened_entry] at hhalves
    exact hhalves.container h.passed rfl hroom id
  · exact .tooDeep hfull (Progress.readOn_of_refused (if_neg hfull.not_lt))

theorem readOn_array (hroom : openArrays frames < 32) (rest : List Char) :
    (Progress.atType n frames types).readOn ('a' :: rest) =
      (Progress.atType (n + 1) (.array :: frames) types).readOn rest :=
  Progress.readOn_of_step (Progress.step_array hroom)

theorem ready_array (h : (Progress.atType n frames types).Ready signature ('a' :: rest))
    (hroom : openArrays frames < 32) :
    (Progress.atType (n + 1) (.array :: frames) types).Ready signature rest := by
  refine ⟨h.passed.next rfl, ?_, by simpa using h.structs⟩
  simp
  omega

/-- An array before a brace is the dictionary behind the brace. -/
theorem array_entry_agrees (ih : TypeAgrees signature type fuel) (hlen : rest.length < fuel)
    (h : (Progress.atType n frames types).Ready signature ('a' :: '{' :: rest))
    (hroom : openArrays frames < 32) :
    Agrees signature (ReadsType frames) (Descent.array signature type)
      (Progress.atType n frames types).cursor
      ((Progress.atType n frames types).readOn ('a' :: '{' :: rest)) ('a' :: '{' :: rest) := by
  have hready := ready_array h hroom
  have hentry := entry_agrees ih hlen hready
  have hat := Runs.isAt hready.passed (rfl : '{'.utf8Size = 1)
  rw [← readOn_array hroom, ← opened_array] at hentry
  rw [← opened_array] at hat
  rw [Descent.array]
  cases hentry with
  | @refused fault c hresult hrun harrays =>
    -- The array itself is open still, so that there is something to leave.
    have hopen : (Progress.atType n frames types).cursor.arrays < c.arrays := harrays
    have hleave : Runs signature (Descent.leave .arrays) c (.ok ())
        (c.setDepth .arrays (c.arrays - 1)) := .leave (Nat.zero_lt_of_lt hopen)
    exact .refused hresult
      (.opens h.passed rfl hroom (hat.bind (hrun.run_bind (hleave.bind (.liftExcept _)))))
      (Nat.le_sub_one_of_lt hopen)
  | complete hrest hreads hrun =>
    obtain ⟨hd, hfits⟩ := hreads
    exact .complete (congrArg _ hrest) ⟨hd.symm, hfits⟩ (.opens h.passed rfl hroom
      (hat.bind (hrun.run_bind ((Runs.leave_opened .arrays rfl _).bind (.liftExcept _)))))

theorem array_element_agrees (ih : TypeAgrees signature type fuel) (hlen : rest.length < fuel)
    (h : (Progress.atType n frames types).Ready signature ('a' :: rest))
    (hroom : openArrays frames < 32) (hbrace : rest.head? ≠ some '{') :
    Agrees signature (ReadsType frames) (Descent.array signature type)
      (Progress.atType n frames types).cursor
      ((Progress.atType n frames types).readOn ('a' :: rest)) ('a' :: rest) := by
  have hready := ready_array h hroom
  have helement := ih hlen hready ⟨fun _ ↦ rfl, fun _ ↦ rfl, fun _ ↦ rfl, fun h ↦ absurd h hbrace⟩
  have hat := Runs.isAt hready.passed (rfl : '{'.utf8Size = 1)
  have hfalse : (rest.head? == some '{') = false := by simpa using hbrace
  rw [hfalse, ← opened_array] at hat
  rw [← readOn_array hroom, ← opened_array] at helement
  rw [Descent.array]
  cases helement with
  | refused hresult hrun harrays =>
    exact .refused hresult (.opens h.passed rfl hroom (hat.bind hrun.bind_error))
      ((Nat.le_succ _).trans harrays)
  | complete hrest hreads hrun =>
    obtain ⟨rfl, hfits⟩ := hreads
    exact .complete (congrArg _ hrest) ⟨rfl, Grammar.fits_array_iff.2 hfits⟩ (.opens h.passed rfl
      hroom (hat.bind (hrun.bind ((Runs.leave_opened .arrays rfl _).bind (.pure _)))))

theorem array_agrees (ih : TypeAgrees signature type fuel) (hlen : rest.length < fuel)
    (h : (Progress.atType n frames types).Ready signature ('a' :: rest)) :
    Agrees signature (ReadsType frames) (Descent.array signature type)
      (Progress.atType n frames types).cursor
      ((Progress.atType n frames types).readOn ('a' :: rest)) ('a' :: rest) := by
  rcases Nat.lt_or_eq_of_le h.arrays with hroom | hfull
  · by_cases hbrace : rest.head? = some '{'
    · obtain ⟨after, rfl⟩ := List.head?_eq_some_iff.1 hbrace
      exact array_entry_agrees ih (Nat.le_of_succ_le hlen) h hroom
    · exact array_element_agrees ih hlen h hroom hbrace
  · rw [Descent.array]
    exact .tooDeep hfull (Progress.readOn_of_refused (if_neg hfull.not_lt))

/-- The members that are left of a struct, and the parenthesis behind them. -/
def ReadsMembers (frames : List Frame) (ds : List Descriptor) (codes : List Char) : Prop :=
  codes = codesAll ds ++ [')'] ∧ ∀ d ∈ ds, Grammar.bus.Fits (.struct [] :: frames) d

theorem ReadsMembers.cons {d : Descriptor} {ds read : List Descriptor} {codes : List Char}
    (hd : Grammar.bus.Fits (.struct read :: frames) d) (h : ReadsMembers frames ds codes) :
    ReadsMembers frames (d :: ds) (d.codes ++ codes) := by
  obtain ⟨rfl, hds⟩ := h
  refine ⟨(List.append_assoc ..).symm, List.forall_mem_cons.2 ⟨?_, hds⟩⟩
  exact (Grammar.fits_congr (by simp) (by simp)).1 hd

/-- A struct goes on with any number of members. Each is read as a type of its own, and takes some
of the text. -/
theorem members_agrees {steps : Nat} {read : List Descriptor}
    (ih : TypeAgrees signature type fuel) (hlen : rest.length < fuel) (hsteps : rest.length < steps)
    (h : (Progress.atType n (.struct read :: frames) types).Ready signature rest) :
    Agrees signature (ReadsMembers frames) (Descent.members signature type steps)
      (Progress.atType n (.struct read :: frames) types).cursor
      ((Progress.atType n (.struct read :: frames) types).readOn rest) rest := by
  induction steps generalizing n read rest with
  | zero => exact absurd hsteps (Nat.not_lt_zero _)
  | succ steps ihsteps =>
    rw [Descent.members]
    refine .after (.peek h.passed) ?_
    cases rest with
    | nil => exact .refused_here rfl (.refuse _)
    | cons c rest =>
      simp only [List.head?_cons, Option.map_some, Text.firstByte_eq_iff (rfl : ')'.utf8Size = 1)]
      by_cases hc : c = ')'
      · subst hc
        rw [if_pos rfl]
        exact .complete rfl ⟨rfl, by simp⟩ ((Runs.advance h.passed rfl).bind (.pure []))
      · rw [if_neg hc]
        have hmember := ih hlen h ⟨by simp, fun h ↦ absurd (Option.some.inj h) hc, fun _ ↦ rfl,
          fun _ ↦ rfl⟩
        refine hmember.bind ?_
        rintro d codes after hrest ⟨rfl, hfits⟩
        rw [hrest] at hlen hsteps h ⊢
        have hread : (Progress.atType n (.struct read :: frames) types).readOn (d.codes ++ after) =
            (Progress.atType (n + utf8Len d.codes) (.struct (d :: read) :: frames) types).readOn
              after := by
          rw [Progress.readOn_codes hfits]
          rfl
        have hready : (Progress.atType (n + utf8Len d.codes) (.struct (d :: read) :: frames)
            types).Ready signature after := h.pass_codes rfl rfl
        have hshort := d.length_lt_length_codes_append after
        have hmembers := ihsteps (hshort.trans hlen) (by omega) hready
        rw [hread]
        refine hmembers.bind ?_
        rintro ds codes after' rfl hds
        refine .complete_here ?_ (.pure _)
        rw [List.append_nil]
        exact hds.cons hfits

theorem fields_agrees (ih : TypeAgrees signature type fuel) (hlen : rest.length < fuel)
    (h : (Progress.atType n (.struct [] :: frames) types).Ready signature rest) :
    Agrees signature (fun ds codes ↦ ReadsMembers frames ds codes ∧ ds ≠ [])
      (Descent.fields signature type fuel) (Progress.atType n (.struct [] :: frames) types).cursor
      ((Progress.atType n (.struct [] :: frames) types).readOn rest) rest := by
  rw [Descent.fields]
  by_cases hclose : rest.head? = some ')'
  · obtain ⟨after, rfl⟩ := List.head?_eq_some_iff.1 hclose
    exact .refused_here (Progress.readOn_of_refused rfl)
      (.bind_error (.refuseAt_refused h.passed rfl hclose))
  · refine .after (.refuseAt h.passed rfl hclose) ?_
    cases members_agrees ih hlen hlen h with
    | refused hresult hrun harrays => exact .refused hresult hrun harrays
    | complete hrest hreads hrun =>
      refine .complete hrest ⟨hreads, ?_⟩ hrun
      rintro rfl
      rw [hrest, hreads.1] at hclose
      exact hclose rfl

theorem struct_agrees (ih : TypeAgrees signature type fuel) (hlen : rest.length < fuel)
    (h : (Progress.atType n frames types).Ready signature ('(' :: rest)) :
    Agrees signature (ReadsType frames) (Descent.struct signature type fuel)
      (Progress.atType n frames types).cursor
      ((Progress.atType n frames types).readOn ('(' :: rest)) ('(' :: rest) := by
  rw [Descent.struct]
  rcases Nat.lt_or_eq_of_le h.structs with hroom | hfull
  · have hopen : openStructs frames < 32 := hroom
    have hready : (Progress.atType (n + 1) (.struct [] :: frames) types).Ready signature rest := by
      refine ⟨h.passed.next rfl, by simpa using h.arrays, ?_⟩
      simp
      omega
    have hfields := fields_agrees ih hlen hready
    rw [← Progress.readOn_of_step (Progress.step_struct hroom), ← opened_struct] at hfields
    refine hfields.container h.passed rfl hroom ?_
    rintro ds codes ⟨⟨rfl, hds⟩, hne⟩
    exact ⟨by simp [codes], (Grammar.fits_struct_iff []).2 ⟨hne, hds⟩⟩
  · exact .tooDeep hfull (Progress.readOn_of_refused (if_neg hfull.not_lt))

/-! ## Types -/

theorem primitive_agrees {c : Char}
    (h : (Progress.atType n frames types).Ready signature (c :: rest))
    (haccept : (Progress.atType n frames types).accept .bus c =
      (Progress.atType n frames types).readPrimitive .bus c) :
    Agrees signature (ReadsType frames) (Descent.primitive signature)
      (Progress.atType n frames types).cursor
      ((Progress.atType n frames types).readOn (c :: rest)) (c :: rest) := by
  cases hcode : Primitive.ofCode? c with
  | none =>
    have hrefused : (Progress.atType n frames types).accept .bus c =
        .error ⟨n, .unknownCode c⟩ := by
      rw [haccept, Progress.readPrimitive, hcode]
      rfl
    exact .refused_here (Progress.readOn_of_refused hrefused)
      (.primitive_refused h.passed hcode)
  | some p =>
    obtain rfl := Primitive.code_of_ofCode? hcode
    have hsize : p.code.utf8Size = 1 := by cases p <;> rfl
    have hrun : Runs signature (Descent.primitive signature)
        (Progress.atType n frames types).cursor (.ok (.primitive p))
        ((Progress.atType n frames types).cursor.pass [p.code]) := by
      rw [Cursor.pass, String.utf8Len_cons, hsize]
      exact .primitive h.passed hcode hsize
    exact .complete rfl ⟨rfl, .primitive p, h.arrays, h.structs⟩ hrun

theorem typeExpected_agrees (h : (Progress.atType n frames types).Ready signature [])
    (hasks : (Progress.atType n frames types).Asks []) :
    Agrees signature (ReadsType frames) (Descent.completeType signature (fuel + 1))
      (Progress.atType n frames types).cursor ((Progress.atType n frames types).readOn []) [] := by
  rw [Descent.completeType]
  exact .after (.peek h.passed) (.refused_here (hasks.ends rfl) (.refuse _))

theorem completeType_agrees {c : Char}
    (ih : TypeAgrees signature (Descent.completeType signature fuel) fuel)
    (hlen : rest.length < fuel) (h : (Progress.atType n frames types).Ready signature (c :: rest))
    (hasks : (Progress.atType n frames types).Asks (c :: rest)) :
    Agrees signature (ReadsType frames) (Descent.completeType signature (fuel + 1))
      (Progress.atType n frames types).cursor
      ((Progress.atType n frames types).readOn (c :: rest)) (c :: rest) := by
  rw [Descent.completeType]
  refine .after (.peek h.passed) ?_
  simp only [List.head?_cons, Option.map_some, Text.firstByte_eq_iff (rfl : 'a'.utf8Size = 1),
    Text.firstByte_eq_iff (rfl : '('.utf8Size = 1), Text.firstByte_eq_iff (rfl : ')'.utf8Size = 1),
    Text.firstByte_eq_iff (rfl : '}'.utf8Size = 1),
    Text.firstByte_eq_iff (rfl : '{'.utf8Size = 1)]
  split_ifs with harray hstruct hclose hbrace hentry
  · subst harray
    exact array_agrees ih hlen h
  · subst hstruct
    exact struct_agrees ih hlen h
  · subst hclose
    exact .refused_here (Progress.readOn_of_refused (hasks.parenthesis rfl)) (.refuse _)
  · subst hbrace
    exact .refused_here (Progress.readOn_of_refused (hasks.brace rfl)) (.refuse _)
  · subst hentry
    exact .refused_here (Progress.readOn_of_refused (hasks.entry rfl)) (.refuse _)
  · refine primitive_agrees h ?_
    rw [Progress.accept, if_neg hbrace, if_neg (by simp), if_neg harray, if_neg hentry,
      if_neg hstruct, if_neg hclose]

end Containers

/-- One type is nested in another at most as often as the text has characters. -/
theorem typeAgrees (signature : String) (fuel : Nat) :
    TypeAgrees signature (Descent.completeType signature fuel) fuel := by
  induction fuel with
  | zero =>
    intro n frames types rest hlen
    exact absurd hlen (Nat.not_lt_zero _)
  | succ fuel ih =>
    intro n frames types rest hlen h hasks
    cases rest with
    | nil => exact typeExpected_agrees h hasks
    | cons c rest => exact completeType_agrees ih (Nat.lt_of_succ_lt_succ hlen) h hasks

/-- A descent ends at the end of the text or at a fault, as the reader does. -/
theorem exists_runs_types {signature : String} {fuel n : Nat} {read : List Descriptor}
    {rest : List Char} (hlen : rest.length < fuel)
    (h : (Progress.atType n [] read).Ready signature rest) :
    ∃ outcome c, Runs signature (Descent.types signature fuel) (Progress.atType n [] read).cursor
        outcome c ∧
      (Progress.atType n [] read).readOn rest = outcome.map (read.reverse ++ ·) := by
  induction fuel generalizing n read rest with
  | zero => exact absurd hlen (Nat.not_lt_zero _)
  | succ fuel ih =>
    rw [Descent.types]
    cases rest with
    | nil =>
      refine ⟨.ok [], _, (Runs.peek h.passed).bind (.pure []), ?_⟩
      exact congrArg Except.ok (List.append_nil _).symm
    | cons c rest =>
      have hfirst := typeAgrees signature (fuel + 1) hlen h
        ⟨by simp, fun _ ↦ rfl, fun _ ↦ rfl, fun _ ↦ rfl⟩
      cases hfirst with
      | refused hresult hrun =>
        exact ⟨_, _, (Runs.peek h.passed).bind hrun.bind_error, hresult⟩
      | @complete d _ after hrest hreads hrun =>
        obtain ⟨rfl, hfits⟩ := hreads
        have hpeek := Runs.peek h.passed
        rw [hrest] at hlen h ⊢
        have hready : (Progress.atType (n + utf8Len d.codes) [] (d :: read)).Ready signature
            after := h.pass_codes rfl rfl
        have hshort := d.length_lt_length_codes_append after
        obtain ⟨outcome, c', hruns, houtcome⟩ := ih (by omega) hready
        have hread : (Progress.atType n [] read).readOn (d.codes ++ after) =
            (Progress.atType (n + utf8Len d.codes) [] (d :: read)).readOn after := by
          rw [Progress.readOn_codes hfits]
          rfl
        refine ⟨outcome.map (d :: ·), c', hpeek.bind (hrun.bind hruns.map), ?_⟩
        rw [hread, houtcome]
        cases outcome <;> simp [Except.map]

/-- What a descent reads is what the signature holds, and it gets there safely. -/
theorem exists_descend_eq (signature : String) :
    ∃ trail?, descend signature = some (parse signature, trail?) ∧
      (trail?.isSome ↔ signature.utf8ByteSize ≤ 255) ∧
      ∀ trail ∈ trail?, trail.Safe signature := by
  rw [descend, parse]
  split_ifs with hlong
  · exact ⟨none, rfl, iff_of_false (by simp) (Nat.not_le.2 hlong), by simp⟩
  · have hready : (Progress.atType 0 [] []).Ready signature signature.toList :=
      ⟨.start signature, by decide, by decide⟩
    have hlen : signature.toList.length < signature.utf8ByteSize + 1 := by
      rw [← String.utf8Len_toList]
      exact Nat.lt_succ_of_le (Text.length_le_utf8Len _)
    obtain ⟨outcome, c, hruns, houtcome⟩ := exists_runs_types hlen hready
    have hstart : Trail.start.LeadsTo signature ⟨0, 0, 0⟩ :=
      ⟨rfl, rfl, .singleton _, List.forall_mem_singleton.2 hready.safe, by simp [Trail.start],
        by simp [Trail.start]⟩
    obtain ⟨trail, hrun, htrail⟩ := hruns _ hstart
    have hread : read .bus signature.toList = outcome :=
      houtcome.trans (by cases outcome <;> rfl)
    refine ⟨some trail, ?_, iff_of_true rfl (Nat.not_lt.1 hlong), ?_⟩
    · rw [hread]
      exact congrArg (· >>= _) hrun
    · rintro _ ⟨⟩
      exact htrail.safe

theorem exists_append_of_unknownCode {signature text : String} {position : Nat} {code : Char}
    (h : parse signature = .error (.unreadable text ⟨position, .unknownCode code⟩)) :
    ∃ before after, signature.toList = before ++ code :: after ∧ utf8Len before = position := by
  rw [parse] at h
  split_ifs at h
  · cases h
  · obtain ⟨fault, hread, heq⟩ := mapError_eq_error_iff.1 h
    cases heq
    obtain ⟨-, hcode⟩ := isGreatest_of_read_eq_error hread (by simp)
    obtain ⟨before, after, htext, hlen, -⟩ := (hcode code).1 rfl
    exact ⟨before, after, htext, hlen⟩

/-- A descent never breaks off, and reads what a signature holds. Only a signature that is too long
is refused without one. From the start of the text until the descent ends, its cursor stays within
the signature and between two characters, behind nothing but characters of one byte, and with at
most 33 open containers of either kind. The text is looked at from there alone, and wherever it is
cut, something is left of it. So a code that is called unknown is the whole character that starts at
the place of the fault. -/
theorem descent_stays_on_boundaries (signature : String) :
    (∃ trail?, descend signature = some (parse signature, trail?) ∧
      (trail?.isSome ↔ signature.utf8ByteSize ≤ 255) ∧
      ∀ trail ∈ trail?, trail.Safe signature) ∧
    ∀ text position code,
      parse signature = .error (.unreadable text ⟨position, .unknownCode code⟩) →
      ∃ p : signature.Pos, p.offset.byteIdx = position ∧ p.get? = some code := by
  refine ⟨exists_descend_eq signature, fun text position code h ↦ ?_⟩
  obtain ⟨before, after, htext, rfl⟩ := exists_append_of_unknownCode h
  exact ⟨_, rfl, Text.get?_pos_utf8Len htext⟩

/-- The unknown code takes two bytes, and two containers are open before it. -/
theorem descent_before_accented_letter :
    parse "(aé" = .error (.unreadable "(aé" ⟨2, .unknownCode 'é'⟩) ∧
      ∃ p : "(aé".Pos, p.offset.byteIdx = 2 ∧ p.get? = some 'é' := by
  have h : parse "(aé" = .error (.unreadable "(aé" ⟨2, .unknownCode 'é'⟩) := by rfl
  exact ⟨h, (descent_stays_on_boundaries "(aé").2 _ _ _ h⟩

/-- The cursors of a descent by their positions, and its looks at the text. -/
example : (descend "(aé").bind (fun result ↦ result.2.map fun trail ↦
    (trail.visits.map (·.position), trail.accesses.map fun a ↦ (a.cursor.position, a.cuts))) =
    some ([2, 1, 1, 0, 0], [(2, true), (2, false), (2, false), (1, false), (1, false), (1, false),
      (0, false), (0, false)]) := by
  rfl

end Introspection.Signature
