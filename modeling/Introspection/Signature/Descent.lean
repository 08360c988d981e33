import Introspection.Signature.Reader

/-!
# Reading by descent

The complete types of a signature may also be read by descending into the containers, with a
cursor that counts bytes. Marks are told by their bytes, and only a byte that is no mark makes the
descent cut the text and look at the character behind the cut. Open containers are counted in the
cursor, up on the way in and down on the way out. So a descent might break off: a text cannot be cut
inside of a character, a count cannot fall below zero, and a descent that runs out of fuel does not
go on. Every cursor on the way is recorded, and so is every look at the text.
-/

namespace Introspection.Signature

/-- What is counted while it is open: arrays and dictionaries, or structs and dictionaries. -/
inductive Depth
  | arrays
  | structs

def Depth.limit : Depth → Nat
  | arrays => Grammar.bus.maxArrays
  | structs => Grammar.bus.maxStructs

def Depth.exceeded : Depth → Cause
  | arrays => .arraysTooDeep
  | structs => .structsTooDeep

/-- Where a descent stands. -/
structure Cursor where
  /-- The number of bytes read. -/
  position : Nat
  arrays : Nat
  structs : Nat

def Cursor.depth (c : Cursor) : Depth → Nat
  | .arrays => c.arrays
  | .structs => c.structs

def Cursor.setDepth (c : Cursor) : Depth → Nat → Cursor
  | .arrays, n => { c with arrays := n }
  | .structs, n => { c with structs := n }

/-- A look at the text behind a cursor: at its first byte, or at its first character when the text
is cut. -/
structure Access where
  cursor : Cursor
  cuts : Bool

/-- The cursors so far, and what was looked at. There is no way to stand somewhere else than where
the trail ends. -/
structure Trail where
  latest : Cursor
  /-- The cursors before the latest one, from the last to the first. -/
  earlier : List Cursor
  accesses : List Access

def Trail.start : Trail :=
  ⟨⟨0, 0, 0⟩, [], []⟩

def Trail.visits (trail : Trail) : List Cursor :=
  trail.latest :: trail.earlier

/-- A part of a descent. It has no outcome if it breaks off. A fault is an outcome, and leaves the
trail as it is. -/
abbrev Descent :=
  ExceptT Fault (StateT Trail Option)

namespace Descent

/-! ## The cursor -/

def breakOff {α : Type} : Descent α :=
  StateT.lift none

def cursor : Descent Cursor := do
  return (← get).latest

def move (cursor : Cursor) : Descent Unit :=
  modify fun trail ↦ ⟨cursor, trail.visits, trail.accesses⟩

def refuse {α : Type} (cause : Cause) : Descent α := do
  throw ⟨(← cursor).position, cause⟩

/-- Passes one byte. -/
def advance : Descent Unit := do
  let c ← cursor
  move { c with position := c.position + 1 }

def enter (depth : Depth) : Descent Unit := do
  let c ← cursor
  move (c.setDepth depth (c.depth depth + 1))
  if depth.limit < c.depth depth + 1 then refuse depth.exceeded

def countDown : Nat → Descent Nat
  | 0 => breakOff
  | n + 1 => return n

def leave (depth : Depth) : Descent Unit := do
  let c ← cursor
  let n ← countDown (c.depth depth)
  move (c.setDepth depth n)

/-- A dictionary is blamed for its key where the key starts. -/
def requireBasic (start : Nat) (key : Descriptor) : Descent Unit := do
  if !key.isBasic then
    let c ← cursor
    move { c with position := start }
    refuse .keyNotBasic

/-! ## The text -/

/-- Notes a look at the text, which is taken where the cursor is. -/
def look (cuts : Bool) : Descent Cursor := do
  let c ← cursor
  modify fun trail ↦ { trail with accesses := ⟨c, cuts⟩ :: trail.accesses }
  return c

variable (signature : String)

/-- The byte behind the cursor. -/
def peek : Descent (Option UInt8) := do
  return signature.toByteArray[(← look false).position]?

def isAt (mark : Char) : Descent Bool := do
  return (← peek signature) == some mark.toUInt8

def refuseAt (mark : Char) (cause : Cause) : Descent Unit := do
  if ← isAt signature mark then refuse cause

/-- The first character behind the cursor, which is the null character at the end of the text. -/
def cut : Descent Char := do
  let c ← look true
  match signature.pos? ⟨c.position⟩ with
  | some p => return p.get?.getD '\x00'
  | none => breakOff

def primitive : Descent Descriptor := do
  let code ← cut signature
  match Primitive.ofCode? code with
  | some p =>
    advance
    return .primitive p
  | none => refuse (.unknownCode code)

def closeEntry : Descent Unit := do
  match ← peek signature with
  | none => refuse .entryNotClosed
  | some code => if code = '}'.toUInt8 then advance else refuse .surplusType

/-! ## Containers

How a type in a container is read is left open here. -/

section Containers

variable (type : Descent Descriptor)

/-- A half of a dictionary, which may be missing. -/
def half (missing : Cause) : Descent Descriptor := do
  refuseAt signature '}' missing
  type

def key : Descent Descriptor := do
  let start := (← cursor).position
  let d ← half signature type .emptyEntry
  requireBasic start d
  return d

/-- The value of a dictionary, and the brace behind it. -/
def value : Descent Descriptor := do
  let d ← half signature type .valueMissing
  closeEntry signature
  return d

def halves : Descent Descriptor := do
  let k ← key signature type
  let v ← value signature type
  return .dictionary k v

def entry : Descent Descriptor := do
  enter .structs
  advance
  let d ← halves signature type
  leave .structs
  return d

def array : Descent Descriptor := do
  enter .arrays
  advance
  if ← isAt signature '{' then
    -- The array is left even if its entry is refused.
    (do let outcome ← (entry signature type).run
        ExceptT.run do
          leave .arrays
          liftExcept outcome : StateT Trail Option (Except Fault Descriptor))
  else
    let element ← type
    leave .arrays
    return .array element

/-- The types up to a closing parenthesis. -/
def members : Nat → Descent (List Descriptor)
  | 0 => breakOff
  | fuel + 1 => do
    match ← peek signature with
    | none => refuse .structNotClosed
    | some code =>
      if code = ')'.toUInt8 then
        advance
        return []
      else
        let d ← type
        return d :: (← members fuel)

def fields (fuel : Nat) : Descent (List Descriptor) := do
  refuseAt signature ')' .emptyStruct
  members signature type fuel

def struct (fuel : Nat) : Descent Descriptor := do
  enter .structs
  advance
  let ds ← fields signature type fuel
  leave .structs
  return .struct ds

end Containers

/-! ## Types -/

def completeType : Nat → Descent Descriptor
  | 0 => breakOff
  | fuel + 1 => do
    match ← peek signature with
    | none => refuse .typeExpected
    | some code =>
      if code = 'a'.toUInt8 then array signature (completeType fuel)
      else if code = '('.toUInt8 then struct signature (completeType fuel) fuel
      else if code = ')'.toUInt8 then refuse .strayParenthesis
      else if code = '}'.toUInt8 then refuse .strayBrace
      else if code = '{'.toUInt8 then refuse .strayEntry
      else primitive signature

/-- The types up to the end of the text. -/
def types : Nat → Descent (List Descriptor)
  | 0 => breakOff
  | fuel + 1 => do
    match ← peek signature with
    | none => return []
    | some _ =>
      let d ← completeType signature (fuel + 1)
      return d :: (← types fuel)

end Descent

/-- The complete types of a signature, in order, and the trail they are read on. A signature that is
too long is refused before a descent begins. No type is nested more often than the text has bytes,
and there is fuel for one more. -/
def descend (signature : String) : Option (Except Error (List Descriptor) × Option Trail) :=
  if maxLength < signature.utf8ByteSize then
    some (.error (.unreadable signature ⟨maxLength, .tooLong⟩), none)
  else do
    let types := Descent.types signature (signature.utf8ByteSize + 1)
    let (outcome, trail) ← types.run.run .start
    return (outcome.mapError (.unreadable signature), some trail)

end Introspection.Signature
