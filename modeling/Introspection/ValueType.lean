import Introspection.Primitive

/-!
# Value types

The types of the values that generated code works with. The native types are plain; a wire type
wraps another type and keeps the signature it was made from.
-/

namespace Introspection

inductive ValueType
  | boolean
  /-- Any integer type. The primitive tells the width on the wire. -/
  | integer (width : Primitive)
  | double
  /-- Strings, object paths, signatures and file descriptors. -/
  | text (kind : Primitive)
  /-- An array of bytes. -/
  | bytes
  /-- A variant, which holds a value of any type. -/
  | any
  | sequence (element : ValueType)
  | mapping (key value : ValueType)
  | tuple (members : List ValueType)
  | wire (signature : String) (inner : ValueType)

namespace ValueType

/-- Induction over the tree, with the hypothesis for every member of a tuple. -/
@[elab_as_elim, induction_eliminator]
theorem induction {motive : ValueType → Prop} (boolean : motive .boolean)
    (integer : ∀ width, motive (.integer width)) (double : motive .double)
    (text : ∀ kind, motive (.text kind)) (bytes : motive .bytes) (any : motive .any)
    (sequence : ∀ element, motive element → motive (.sequence element))
    (mapping : ∀ key value, motive key → motive value → motive (.mapping key value))
    (tuple : ∀ members, (∀ type ∈ members, motive type) → motive (.tuple members))
    (wire : ∀ signature inner, motive inner → motive (.wire signature inner)) (type : ValueType) :
    motive type :=
  @ValueType.rec motive (fun types ↦ ∀ type ∈ types, motive type) boolean integer double text bytes
    any sequence mapping tuple wire nofun (fun _ _ h hs ↦ List.forall_mem_cons.2 ⟨h, hs⟩) type

/-- The signature of a wire type. -/
def signature? : ValueType → Option String
  | wire signature _ => some signature
  | _ => none

/-- The type without its outermost wrapper, if it has one. -/
def kind : ValueType → ValueType
  | wire _ inner => inner
  | type => type

mutual

/-- The type without its wrappers at any level. -/
def erase : ValueType → ValueType
  | sequence element => sequence element.erase
  | mapping key value => mapping key.erase value.erase
  | tuple members => tuple (eraseAll members)
  | wire _ inner => inner.erase
  | boolean => boolean
  | integer width => integer width
  | double => double
  | text kind => text kind
  | bytes => bytes
  | any => any

def eraseAll : List ValueType → List ValueType
  | [] => []
  | type :: types => type.erase :: eraseAll types

end

theorem eraseAll_eq_map (types : List ValueType) : eraseAll types = types.map erase := by
  induction types with
  | nil => rfl
  | cons type types ih => rw [eraseAll, ih, List.map_cons]

end ValueType

end Introspection
