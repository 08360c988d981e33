import Introspection.Descriptor
import Introspection.Signature.Fault

/-!
# Reading signatures

A signature is a sequence of complete types. It is read one character at a time, with the
containers that are still open kept on a stack. A character that cannot continue any signature is
refused on the spot, so a fault stands at the first such character. The one exception is a
dictionary key, which is judged once it is complete and blamed at its first character.
-/

namespace Introspection.Signature

/-- The rules a signature is read under. Every array and every dictionary counts as an array, and
every struct and every dictionary counts as a struct. -/
structure Grammar where
  maxArrays : Nat
  maxStructs : Nat
  isKey : Descriptor → Bool

/-- The rules of the bus. -/
def Grammar.bus : Grammar :=
  ⟨32, 32, Descriptor.isBasic⟩

/-- The longest signature the bus accepts, in bytes. -/
def maxLength : Nat := 255

/-- A container that waits for a complete type. -/
inductive Frame
  | array
  /-- A dictionary without its key, which starts at the given position. -/
  | key (start : Nat)
  | value (key : Descriptor)
  /-- A struct with the members read so far, the latest one first. -/
  | struct (members : List Descriptor)

def Frame.countsAsArray : Frame → Bool
  | array | key _ | value _ => true
  | struct _ => false

def Frame.countsAsStruct : Frame → Bool
  | key _ | value _ | struct _ => true
  | array => false

/-- What has been read of a signature. -/
structure Progress where
  /-- The number of bytes read. -/
  position : Nat
  /-- The key and the value of a dictionary that only lacks its closing brace. -/
  entry : Option (Descriptor × Descriptor)
  /-- The open containers, the innermost one first. -/
  frames : List Frame
  /-- The types that are complete, the latest one first. -/
  types : List Descriptor

namespace Progress

def start : Progress :=
  ⟨0, none, [], []⟩

def fail {α : Type} (p : Progress) (cause : Cause) : Except Fault α :=
  .error ⟨p.position, cause⟩

def arrays (p : Progress) : Nat :=
  p.frames.countP Frame.countsAsArray

def structs (p : Progress) : Nat :=
  p.frames.countP Frame.countsAsStruct

/-- Hands a complete type to the innermost of the given containers. An array is complete with its
element, so it is handed on in turn. -/
def deliver (g : Grammar) (p : Progress) (d : Descriptor) : List Frame → Except Fault Progress
  | [] => .ok { p with entry := none, frames := [], types := d :: p.types }
  | .array :: frames => p.deliver g (.array d) frames
  | .key start :: frames =>
    if g.isKey d then .ok { p with entry := none, frames := .value d :: frames }
    else .error ⟨start, .keyNotBasic⟩
  | .value key :: frames => .ok { p with entry := some (key, d), frames := frames }
  | .struct members :: frames =>
    .ok { p with entry := none, frames := .struct (d :: members) :: frames }

def openArray (g : Grammar) (p : Progress) : Except Fault Progress :=
  if p.arrays < g.maxArrays then .ok { p with frames := .array :: p.frames }
  else p.fail .arraysTooDeep

/-- A brace opens the dictionary that the array before it turns out to be. -/
def openEntry (g : Grammar) (p : Progress) : Except Fault Progress :=
  match p.frames with
  | .array :: frames =>
    if p.structs < g.maxStructs then .ok { p with frames := .key (p.position + 1) :: frames }
    else p.fail .structsTooDeep
  | _ => p.fail .strayEntry

def openStruct (g : Grammar) (p : Progress) : Except Fault Progress :=
  if p.structs < g.maxStructs then .ok { p with frames := .struct [] :: p.frames }
  else p.fail .structsTooDeep

def closeEntry (g : Grammar) (p : Progress) : Except Fault Progress :=
  match p.entry, p.frames with
  | some (key, value), frames => p.deliver g (.dictionary key value) frames
  | none, .key _ :: _ => p.fail .emptyEntry
  | none, .value _ :: _ => p.fail .valueMissing
  | none, _ => p.fail .strayBrace

def closeStruct (g : Grammar) (p : Progress) : Except Fault Progress :=
  match p.frames with
  | .struct [] :: _ => p.fail .emptyStruct
  | .struct members :: frames => p.deliver g (.struct members.reverse) frames
  | _ => p.fail .strayParenthesis

def readPrimitive (g : Grammar) (p : Progress) (c : Char) : Except Fault Progress :=
  match Primitive.ofCode? c with
  | some primitive => p.deliver g (.primitive primitive) p.frames
  | none => p.fail (.unknownCode c)

/-- Reads a character without counting it. -/
def accept (g : Grammar) (p : Progress) (c : Char) : Except Fault Progress :=
  if c = '}' then p.closeEntry g
  else if p.entry.isSome then p.fail .surplusType
  else if c = 'a' then p.openArray g
  else if c = '{' then p.openEntry g
  else if c = '(' then p.openStruct g
  else if c = ')' then p.closeStruct g
  else p.readPrimitive g c

def step (g : Grammar) (p : Progress) (c : Char) : Except Fault Progress := do
  let q ← p.accept g c
  return { q with position := p.position + c.utf8Size }

/-- The types of a signature that ends here. -/
def finish (p : Progress) : Except Fault (List Descriptor) :=
  match p.entry, p.frames with
  | some _, _ => p.fail .entryNotClosed
  | none, [] => .ok p.types.reverse
  | none, .struct _ :: _ => p.fail .structNotClosed
  | none, _ => p.fail .typeExpected

end Progress

/-- Reads complete types up to the end of the text. -/
def read (g : Grammar) (codes : List Char) : Except Fault (List Descriptor) := do
  let p ← codes.foldlM (Progress.step g) .start
  p.finish

/-- The complete types of a signature, in order. -/
def parse (signature : String) : Except Error (List Descriptor) :=
  if maxLength < signature.utf8ByteSize then .error (.unreadable signature ⟨maxLength, .tooLong⟩)
  else (read .bus signature.toList).mapError (.unreadable signature)

/-- The type of a signature that holds exactly one. -/
def parseSingle (signature : String) : Except Error Descriptor := do
  match ← parse signature with
  | [d] => return d
  | _ => throw (.unreadable signature ⟨0, .notSingle⟩)

end Introspection.Signature
