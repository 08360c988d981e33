import Introspection.Proofs.Text.Boundaries
import Introspection.Signature.Descent

/-!
# Where a descent passes

A descent passes safely if every cursor on its way stands between two characters, behind nothing but
characters of one byte, and not deeper than one container beyond the allowed depth, and if it looks
at the text from nowhere else. A part of a descent is followed from one cursor to another, through
all parts that it is made of.
-/

open String (utf8Len)

namespace Introspection.Signature

open Text (Passed firstByte)

variable {signature : String} {c c' c'' : Cursor} {rest : List Char}

/-! ## Safety -/

theorem Depth.limit_eq (depth : Depth) : depth.limit = 32 := by
  cases depth <;> rfl

/-- The cursor behind some codes. -/
def Cursor.pass (c : Cursor) (codes : List Char) : Cursor :=
  { c with position := c.position + utf8Len codes }

/-- The cursor in a container, behind its first code. -/
def Cursor.opened (c : Cursor) (depth : Depth) : Cursor :=
  { c.setDepth depth (c.depth depth + 1) with position := c.position + 1 }

theorem Cursor.arrays_le_opened (c : Cursor) (depth : Depth) :
    c.arrays ≤ (c.opened depth).arrays := by
  cases depth with
  | arrays => exact Nat.le_succ _
  | structs => exact Nat.le_refl _

theorem Cursor.pass_pass (c : Cursor) (codes codes' : List Char) :
    (c.pass codes).pass codes' = c.pass (codes ++ codes') := by
  simp [pass, Nat.add_assoc]

theorem Cursor.position_setDepth (c : Cursor) (depth : Depth) (n : Nat) :
    (c.setDepth depth n).position = c.position := by
  cases depth <;> rfl

structure Cursor.Safe (signature : String) (c : Cursor) : Prop where
  inside : c.position ≤ signature.utf8ByteSize
  onBoundary : (⟨c.position⟩ : String.Pos.Raw).IsValid signature
  ascii : ∀ i < c.position, ∀ byte, signature.toByteArray[i]? = some byte → byte < 128
  arrays : c.arrays ≤ 33
  structs : c.structs ≤ 33

theorem Cursor.Safe.setDepth (h : c.Safe signature) (depth : Depth) {n : Nat} (hn : n ≤ 33) :
    (c.setDepth depth n).Safe signature := by
  cases depth with
  | arrays => exact ⟨h.inside, h.onBoundary, h.ascii, hn, h.structs⟩
  | structs => exact ⟨h.inside, h.onBoundary, h.ascii, h.arrays, hn⟩

theorem Cursor.Safe.depth_le (h : c.Safe signature) (depth : Depth) : c.depth depth ≤ 33 := by
  cases depth with
  | arrays => exact h.arrays
  | structs => exact h.structs

theorem Cursor.safe_of_passed (h : Passed signature c.position rest)
    (ha : c.arrays ≤ 33) (hs : c.structs ≤ 33) : c.Safe signature where
  inside := h.isValid.le_utf8ByteSize
  onBoundary := h.isValid
  ascii _ hi _ hbyte := h.lt_of_getElem? hi hbyte
  arrays := ha
  structs := hs

/-- A cursor goes on by one byte or one container at a time. It may go back farther. -/
structure Cursor.Follows (c' c : Cursor) : Prop where
  position : c'.position ≤ c.position + 1
  arrays : c'.arrays ≤ c.arrays + 1
  structs : c'.structs ≤ c.structs + 1

theorem Cursor.follows_position (c : Cursor) {n : Nat} (hn : n ≤ c.position + 1) :
    Cursor.Follows { c with position := n } c :=
  ⟨hn, Nat.le_succ _, Nat.le_succ _⟩

theorem Cursor.follows_setDepth (c : Cursor) (depth : Depth) {n : Nat}
    (hn : n ≤ c.depth depth + 1) : (c.setDepth depth n).Follows c := by
  cases depth with
  | arrays => exact ⟨Nat.le_succ _, hn, Nat.le_succ _⟩
  | structs => exact ⟨Nat.le_succ _, Nat.le_succ _, hn⟩

/-- A trail is safe if it misses no cursor on the way from the start of the text, all of its cursors
are safe and the text is looked at from them alone. Where the text is cut, something is left. -/
structure Trail.Safe (signature : String) (trail : Trail) : Prop where
  starts : trail.visits.getLast? = some ⟨0, 0, 0⟩
  steps : trail.visits.IsChain Cursor.Follows
  visits : ∀ c ∈ trail.visits, c.Safe signature
  accesses : ∀ a ∈ trail.accesses, a.cursor ∈ trail.visits
  cuts : ∀ a ∈ trail.accesses, a.cuts = true → a.cursor.position < signature.utf8ByteSize

/-- A trail that ends at a cursor and has been safe all the way. -/
structure Trail.LeadsTo (signature : String) (c : Cursor) (trail : Trail) : Prop where
  cursor : trail.latest = c
  safe : trail.Safe signature

theorem Trail.LeadsTo.safe_cursor {trail : Trail} (h : trail.LeadsTo signature c) :
    c.Safe signature :=
  h.cursor ▸ h.safe.visits trail.latest List.mem_cons_self

theorem Trail.Safe.move {trail : Trail} (h : trail.Safe signature) (hc : c.Safe signature)
    (hfollows : c.Follows trail.latest) :
    Trail.Safe signature ⟨c, trail.visits, trail.accesses⟩ where
  starts := h.starts
  steps := List.isChain_cons_cons.2 ⟨hfollows, h.steps⟩
  visits := List.forall_mem_cons.2 ⟨hc, h.visits⟩
  accesses a ha := List.mem_cons_of_mem _ (h.accesses a ha)
  cuts := h.cuts

theorem Trail.Safe.look {trail : Trail} {cuts : Bool} (h : trail.Safe signature)
    (hcuts : cuts = true → trail.latest.position < signature.utf8ByteSize) :
    Trail.Safe signature { trail with accesses := ⟨trail.latest, cuts⟩ :: trail.accesses } where
  starts := h.starts
  steps := h.steps
  visits := h.visits
  accesses := List.forall_mem_cons.2 ⟨List.mem_cons_self, h.accesses⟩
  cuts := List.forall_mem_cons.2 ⟨hcuts, h.cuts⟩

/-! ## Runs -/

variable {α β : Type} {m : Descent α} {f : α → Descent β} {outcome : Except Fault β}

/-- A part of a descent leads safely from one cursor to another and has the given outcome, however
the first cursor was reached. -/
def Runs (signature : String) (m : Descent α) (c : Cursor) (outcome : Except Fault α)
    (c' : Cursor) : Prop :=
  ∀ trail : Trail, trail.LeadsTo signature c →
    ∃ trail', m.run.run trail = some (outcome, trail') ∧ trail'.LeadsTo signature c'

namespace Runs

/-- The cursor where a part begins has been reached safely. -/
theorem of_safe {outcome : Except Fault α}
    (h : c.Safe signature → Runs signature m c outcome c') : Runs signature m c outcome c' :=
  fun trail htrail ↦ h htrail.safe_cursor trail htrail

theorem pure (a : α) : Runs signature (pure a) c (.ok a) c :=
  fun trail htrail ↦ ⟨trail, rfl, htrail⟩

theorem bind {a : α} (hm : Runs signature m c (.ok a) c')
    (hf : Runs signature (f a) c' outcome c'') : Runs signature (m >>= f) c outcome c'' := by
  intro trail htrail
  obtain ⟨trail', hrun, htrail'⟩ := hm trail htrail
  obtain ⟨trail'', hrun', htrail''⟩ := hf trail' htrail'
  refine ⟨trail'', ?_, htrail''⟩
  rw [ExceptT.run_bind, StateT.run_bind, hrun]
  exact hrun'

theorem bind_error {fault : Fault} (hm : Runs signature m c (.error fault) c') :
    Runs signature (m >>= f) c (.error fault) c' := by
  intro trail htrail
  obtain ⟨trail', hrun, htrail'⟩ := hm trail htrail
  refine ⟨trail', ?_, htrail'⟩
  rw [ExceptT.run_bind, StateT.run_bind, hrun]
  rfl

theorem map {g : α → β} {outcome : Except Fault α} (hm : Runs signature m c outcome c') :
    Runs signature (do let a ← m; return g a) c (outcome.map g) c' := by
  cases outcome with
  | error fault => exact hm.bind_error
  | ok a => exact hm.bind (.pure _)

/-- What follows the outcome may depend on whether it is a fault. -/
theorem run_bind {outcome : Except Fault α} {outcome' : Except Fault β}
    {f : Except Fault α → Descent β} (hm : Runs signature m c outcome c')
    (hf : Runs signature (f outcome) c' outcome' c'') :
    Runs signature (m.run >>= fun outcome ↦ (f outcome).run : StateT Trail Option (Except Fault β))
      c outcome' c'' := by
  intro trail htrail
  obtain ⟨trail', hrun, htrail'⟩ := hm trail htrail
  obtain ⟨trail'', hrun', htrail''⟩ := hf trail' htrail'
  refine ⟨trail'', ?_, htrail''⟩
  rw [← hrun']
  exact congrArg (Option.bind · _) hrun

theorem liftExcept (outcome : Except Fault α) :
    Runs signature (liftExcept outcome) c outcome c := by
  cases outcome <;> exact fun trail htrail ↦ ⟨trail, rfl, htrail⟩

/-! ## The cursor -/

theorem cursor : Runs signature Descent.cursor c (.ok c) c :=
  fun trail htrail ↦ ⟨trail, htrail.cursor ▸ rfl, htrail⟩

theorem move (h : c'.Safe signature) (hfollows : c'.Follows c) :
    Runs signature (Descent.move c') c (.ok ()) c' :=
  fun _ htrail ↦ ⟨_, rfl, rfl, htrail.safe.move h (htrail.cursor ▸ hfollows)⟩

theorem refuse (cause : Cause) :
    Runs signature (Descent.refuse cause : Descent α) c (.error ⟨c.position, cause⟩) c :=
  cursor.bind fun trail htrail ↦ ⟨trail, rfl, htrail⟩

theorem advance {code : Char} (h : Passed signature c.position (code :: rest))
    (hcode : code.utf8Size = 1) :
    Runs signature Descent.advance c (.ok ()) { c with position := c.position + 1 } := by
  refine .of_safe fun hc ↦ cursor.bind (move ?_ (c.follows_position (Nat.le_refl _)))
  exact Cursor.safe_of_passed (h.next hcode) hc.arrays hc.structs

theorem enter {depth : Depth} (hroom : c.depth depth < 32) :
    Runs signature (Descent.enter depth) c (.ok ()) (c.setDepth depth (c.depth depth + 1)) := by
  refine .of_safe fun hc ↦ cursor.bind ((move (hc.setDepth depth (by omega))
    (c.follows_setDepth depth (Nat.le_refl _))).bind ?_)
  rw [if_neg (by rw [depth.limit_eq]; omega)]
  exact .pure ()

/-- The container beyond the allowed depth is counted before it is refused. -/
theorem enter_refused {depth : Depth} (hfull : c.depth depth = 32) :
    Runs signature (Descent.enter depth) c (.error ⟨c.position, depth.exceeded⟩)
      (c.setDepth depth 33) := by
  refine .of_safe fun hc ↦ cursor.bind ((move (hc.setDepth depth (by omega))
    (c.follows_setDepth depth (Nat.le_refl _))).bind ?_)
  rw [if_pos (by rw [depth.limit_eq]; omega), hfull, ← c.position_setDepth depth 33]
  exact .refuse _

theorem leave {depth : Depth} (hopen : 0 < c.depth depth) :
    Runs signature (Descent.leave depth) c (.ok ()) (c.setDepth depth (c.depth depth - 1)) := by
  refine .of_safe fun hc ↦ ?_
  obtain ⟨n, hn⟩ := Nat.exists_eq_add_one.2 hopen
  have hsafe : (c.setDepth depth n).Safe signature := by
    have := hc.depth_le depth
    exact hc.setDepth depth (by omega)
  have hcount : Runs signature (Descent.countDown (c.depth depth)) c (.ok n) c := hn ▸ .pure n
  have hless : c.depth depth - 1 = n := by omega
  rw [hless]
  exact cursor.bind (hcount.bind (move hsafe (c.follows_setDepth depth (by omega))))

theorem requireBasic {start : Nat} {key : Descriptor} (hkey : key.isBasic = true) :
    Runs signature (Descent.requireBasic start key) c (.ok ()) c := by
  rw [Descent.requireBasic, if_neg (by simp [hkey])]
  exact .pure ()

theorem requireBasic_refused {start : Nat} {key : Descriptor} (hkey : key.isBasic = false)
    (hc : Cursor.Safe signature { c with position := start }) (hstart : start ≤ c.position) :
    Runs signature (Descent.requireBasic start key) c (.error ⟨start, .keyNotBasic⟩)
      { c with position := start } := by
  rw [Descent.requireBasic, if_pos (by simp [hkey])]
  exact cursor.bind ((move hc (c.follows_position (Nat.le_succ_of_le hstart))).bind (.refuse _))

/-! ## Containers -/

section Containers

variable {depth : Depth} {code : Char}

/-- The first code of a container is passed on the way in. -/
theorem opens {body : Descent α} {outcome : Except Fault α}
    (h : Passed signature c.position (code :: rest)) (hcode : code.utf8Size = 1)
    (hroom : c.depth depth < 32) (hbody : Runs signature body (c.opened depth) outcome c') :
    Runs signature (do Descent.enter depth; Descent.advance; body) c outcome c' := by
  rw [← c.position_setDepth depth (c.depth depth + 1)] at h
  have hadvance := advance h hcode
  rw [c.position_setDepth] at hadvance
  exact (enter hroom).bind (hadvance.bind hbody)

/-- A container that is left counts no more, and its codes have been passed. -/
theorem leave_opened (depth : Depth) (hcode : code.utf8Size = 1) (codes : List Char) :
    Runs signature (Descent.leave depth) ((c.opened depth).pass codes) (.ok ())
      (c.pass (code :: codes)) := by
  have hcursor : ((c.opened depth).pass codes).setDepth depth
      (((c.opened depth).pass codes).depth depth - 1) = c.pass (code :: codes) := by
    cases depth <;>
      simp [Cursor.opened, Cursor.pass, Cursor.setDepth, Cursor.depth, hcode] <;> omega
  have hopen : 0 < ((c.opened depth).pass codes).depth depth := by
    cases depth <;> simp [Cursor.opened, Cursor.pass, Cursor.setDepth, Cursor.depth]
  exact hcursor ▸ leave hopen

end Containers

/-! ## The text -/

theorem look {cuts : Bool} (hcuts : cuts = true → c.position < signature.utf8ByteSize) :
    Runs signature (Descent.look cuts) c (.ok c) c := by
  rintro trail ⟨rfl, hsafe⟩
  exact ⟨_, rfl, rfl, hsafe.look hcuts⟩

section Text

variable (h : Passed signature c.position rest)

include h

/-- The descent sees the next byte, which belongs to the next character. -/
theorem peek : Runs signature (Descent.peek signature) c (.ok (rest.head?.map firstByte)) c :=
  h.getElem? ▸ (look (by simp)).bind (.pure _)

theorem isAt {mark : Char} (hmark : mark.utf8Size = 1) :
    Runs signature (Descent.isAt signature mark) c (.ok (rest.head? == some mark)) c := by
  have hbyte : (rest.head?.map firstByte == some mark.toUInt8) = (rest.head? == some mark) := by
    cases rest with
    | nil => rfl
    | cons code rest =>
      rw [Bool.eq_iff_iff]
      simp [Text.firstByte_eq_iff hmark]
  exact hbyte ▸ (peek h).bind (.pure _)

theorem refuseAt {mark : Char} {cause : Cause} (hmark : mark.utf8Size = 1)
    (hne : rest.head? ≠ some mark) :
    Runs signature (Descent.refuseAt signature mark cause) c (.ok ()) c := by
  refine (isAt h hmark).bind ?_
  rw [if_neg (by simpa using hne)]
  exact .pure ()

theorem refuseAt_refused {mark : Char} {cause : Cause} (hmark : mark.utf8Size = 1)
    (heq : rest.head? = some mark) :
    Runs signature (Descent.refuseAt signature mark cause) c (.error ⟨c.position, cause⟩) c := by
  refine (isAt h hmark).bind ?_
  rw [if_pos (by simpa using heq)]
  exact .refuse cause

end Text

section Character

variable {code : Char} (h : Passed signature c.position (code :: rest))

include h

theorem cut : Runs signature (Descent.cut signature) c (.ok code) c := by
  obtain ⟨p, hp, hcode⟩ := h.exists_pos?
  refine (look fun _ ↦ h.lt_utf8ByteSize).bind ?_
  simp only [hp, hcode]
  exact .pure code

theorem primitive {p : Primitive} (hp : Primitive.ofCode? code = some p)
    (hcode : code.utf8Size = 1) :
    Runs signature (Descent.primitive signature) c (.ok (.primitive p))
      { c with position := c.position + 1 } := by
  refine (cut h).bind ?_
  simp only [hp]
  exact (advance h hcode).bind (.pure _)

theorem primitive_refused (hcode : Primitive.ofCode? code = none) :
    Runs signature (Descent.primitive signature) c (.error ⟨c.position, .unknownCode code⟩) c := by
  refine (cut h).bind ?_
  simp only [hcode]
  exact .refuse _

end Character

theorem closeEntry (h : Passed signature c.position ('}' :: rest)) :
    Runs signature (Descent.closeEntry signature) c (.ok ())
      { c with position := c.position + 1 } :=
  (peek h).bind (advance h rfl)

theorem closeEntry_surplus {code : Char} (h : Passed signature c.position (code :: rest))
    (hcode : code ≠ '}') :
    Runs signature (Descent.closeEntry signature) c (.error ⟨c.position, .surplusType⟩) c := by
  refine (peek h).bind ?_
  simp only [List.head?_cons, Option.map_some]
  rw [if_neg (mt (Text.firstByte_eq_iff rfl).1 hcode)]
  exact .refuse _

theorem closeEntry_missing (h : Passed signature c.position []) :
    Runs signature (Descent.closeEntry signature) c (.error ⟨c.position, .entryNotClosed⟩) c :=
  (peek h).bind (.refuse _)

end Runs

end Introspection.Signature
