import Introspection.Signature.Reader
import Introspection.ValueType

/-!
# Resolving descriptors

In native mode every descriptor has a value type. In wire mode every node of that type is wrapped
together with the signature of its descriptor, and a byte outside of arrays and dictionaries is
refused, since it has no default value on the wire. Nothing inside an array or a dictionary is
ever given a default value, so bytes are fine there at any depth.
-/

namespace Introspection

inductive Mode
  | native
  | wire
  deriving DecidableEq

def Primitive.resolve : Primitive → ValueType
  | .boolean => .boolean
  | .double => .double
  | .variant => .any
  | .string => .text .string
  | .objectPath => .text .objectPath
  | .signature => .text .signature
  | .unixFd => .text .unixFd
  | .byte => .integer .byte
  | .int16 => .integer .int16
  | .uint16 => .integer .uint16
  | .int32 => .integer .int32
  | .uint32 => .integer .uint32
  | .int64 => .integer .int64
  | .uint64 => .integer .uint64

namespace Descriptor

mutual

def native : Descriptor → ValueType
  | primitive p => p.resolve
  | array (primitive .byte) => .bytes
  | array element => .sequence element.native
  | dictionary key value => .mapping key.native value.native
  | struct members => .tuple (nativeAll members)

def nativeAll : List Descriptor → List ValueType
  | [] => []
  | d :: ds => d.native :: nativeAll ds

end

theorem nativeAll_eq_map (ds : List Descriptor) : nativeAll ds = ds.map native := by
  induction ds with
  | nil => rfl
  | cons d ds ih => rw [nativeAll, ih, List.map_cons]

theorem native_struct (members : List Descriptor) :
    (struct members).native = .tuple (members.map native) := by
  rw [native, nativeAll_eq_map]

theorem native_array {element : Descriptor} (h : element ≠ primitive .byte) :
    (array element).native = .sequence element.native := by
  rw [native]
  exact h

mutual

/-- Resolves a descriptor in wire mode. `contained` tells whether an array or a dictionary is
around it. -/
def wire (contained : Bool) : Descriptor → Except Signature.Error ValueType
  | d@(primitive p) =>
    if p = .byte && !contained then .error (.noDefault d.text)
    else .ok (.wire d.text p.resolve)
  | d@(array (primitive .byte)) => .ok (.wire d.text .bytes)
  | d@(array element) => do
    let element ← element.wire true
    return .wire d.text (.sequence element)
  | d@(dictionary key value) => do
    let key ← key.wire true
    let value ← value.wire true
    return .wire d.text (.mapping key value)
  | d@(struct members) => do
    let members ← wireAll contained members
    return .wire d.text (.tuple members)

def wireAll (contained : Bool) : List Descriptor → Except Signature.Error (List ValueType)
  | [] => .ok []
  | d :: ds => do
    let type ← d.wire contained
    let types ← wireAll contained ds
    return type :: types

end

theorem wireAll_eq_mapM (contained : Bool) (ds : List Descriptor) :
    wireAll contained ds = ds.mapM (wire contained) := by
  induction ds with
  | nil => rfl
  | cons d ds ih => rw [wireAll, ih, List.mapM_cons]

theorem wire_struct (contained : Bool) (members : List Descriptor) :
    (struct members).wire contained = do
      let types ← members.mapM (wire contained)
      return .wire (struct members).text (.tuple types) := by
  rw [wire, wireAll_eq_mapM]

theorem wire_array {contained : Bool} {element : Descriptor} (h : element ≠ primitive .byte) :
    (array element).wire contained = do
      let type ← element.wire true
      return .wire (array element).text (.sequence type) := by
  rw [wire]
  exact h

def resolve (mode : Mode) (d : Descriptor) : Except Signature.Error ValueType :=
  match mode with
  | .native => .ok d.native
  | .wire => d.wire false

end Descriptor

/-- The value types of all complete types of a signature. -/
def Signature.resolve (mode : Mode) (signature : String) :
    Except Signature.Error (List ValueType) := do
  let types ← parse signature
  types.mapM (Descriptor.resolve mode)

end Introspection
