import Introspection.ValueType

/-!
# Type expressions

The types that generated code declares for values. A native type becomes a plain type of the
standard library, a wire type the matching type of the wire library. Expressions are written as
their tokens with single blanks between them; what stands in parentheses touches them.
-/

namespace Introspection.Code

inductive IntType
  | u8
  | i16
  | u16
  | i32
  | u32
  | i64
  | u64
  deriving DecidableEq

def IntType.text : IntType → String
  | u8 => "u8"
  | i16 => "i16"
  | u16 => "u16"
  | i32 => "i32"
  | u32 => "u32"
  | i64 => "i64"
  | u64 => "u64"

/-- A type that takes no type arguments. The last seven belong to the wire library. -/
inductive TypeName
  | bool
  | int (type : IntType)
  | float
  | string
  | ownedObjectPath
  | ownedSignature
  | ownedFd
  | ownedValue
  | array
  | dict
  | struct
  deriving DecidableEq

def TypeName.text : TypeName → String
  | bool => "bool"
  | int type => type.text
  | float => "f64"
  | string => "String"
  | ownedObjectPath => "zvariant :: OwnedObjectPath"
  | ownedSignature => "zvariant :: OwnedSignature"
  | ownedFd => "zvariant :: OwnedFd"
  | ownedValue => "zvariant :: OwnedValue"
  | array => "zvariant :: Array < 'static >"
  | dict => "zvariant :: Dict < 'static , 'static >"
  | struct => "zvariant :: Structure < 'static >"

inductive TypeExpr
  | name (n : TypeName)
  | vec (element : TypeExpr)
  | hashMap (key value : TypeExpr)
  | tuple (members : List TypeExpr)

/-- Induction over the tree, with the hypothesis for every member of a tuple. -/
@[elab_as_elim, induction_eliminator]
theorem TypeExpr.induction {motive : TypeExpr → Prop} (name : ∀ n, motive (.name n))
    (vec : ∀ element, motive element → motive (.vec element))
    (hashMap : ∀ key value, motive key → motive value → motive (.hashMap key value))
    (tuple : ∀ members, (∀ t ∈ members, motive t) → motive (.tuple members)) (t : TypeExpr) :
    motive t :=
  @TypeExpr.rec motive (fun ts ↦ ∀ t ∈ ts, motive t) name vec hashMap tuple nofun
    (fun _ _ h hs ↦ List.forall_mem_cons.2 ⟨h, hs⟩) t

/-- Pieces of text with single blanks between them. -/
def spaced (pieces : List String) : String :=
  " ".intercalate pieces

namespace TypeExpr

mutual

def text : TypeExpr → String
  | name n => n.text
  | vec element => "Vec < " ++ element.text ++ " >"
  | hashMap key value =>
    "std :: collections :: HashMap < " ++ key.text ++ " , " ++ value.text ++ " >"
  | tuple members => "(" ++ spaced (memberTexts members) ++ ")"

/-- Every member of a tuple is followed by a comma. -/
def memberTexts : List TypeExpr → List String
  | [] => []
  | t :: ts => (t.text ++ " ,") :: memberTexts ts

end

theorem text_name (n : TypeName) : (name n).text = n.text := rfl

theorem text_vec (element : TypeExpr) : (vec element).text = "Vec < " ++ element.text ++ " >" := rfl

theorem text_hashMap (key value : TypeExpr) :
    (hashMap key value).text =
      "std :: collections :: HashMap < " ++ key.text ++ " , " ++ value.text ++ " >" := rfl

theorem memberTexts_eq_map (ts : List TypeExpr) : memberTexts ts = ts.map (·.text ++ " ,") := by
  induction ts with
  | nil => rfl
  | cons t ts ih => rw [memberTexts, ih, List.map_cons]

theorem text_tuple (members : List TypeExpr) :
    (tuple members).text = "(" ++ spaced (members.map (·.text ++ " ,")) ++ ")" := by
  rw [← memberTexts_eq_map]
  rfl

end TypeExpr

end Introspection.Code

namespace Introspection

open Code

/-- The type of a primitive on the wire. -/
def Primitive.typeName : Primitive → TypeName
  | .boolean => .bool
  | .byte => .int .u8
  | .int16 => .int .i16
  | .uint16 => .int .u16
  | .int32 => .int .i32
  | .uint32 => .int .u32
  | .int64 => .int .i64
  | .uint64 => .int .u64
  | .double => .float
  | .string => .string
  | .objectPath => .ownedObjectPath
  | .signature => .ownedSignature
  | .unixFd => .ownedFd
  | .variant => .ownedValue

namespace ValueType

mutual

/-- The type that generated code declares for values of a value type. -/
def typeExpr : ValueType → TypeExpr
  | boolean => .name .bool
  | integer width => .name width.typeName
  | double => .name .float
  | text _ => .name .string
  | bytes => .vec (.name (.int .u8))
  | any => .name .ownedValue
  | sequence element => .vec element.typeExpr
  | mapping key value => .hashMap key.typeExpr value.typeExpr
  | tuple members => .tuple (typeExprs members)
  | wire _ (text kind) => .name kind.typeName
  | wire _ (sequence _) => .name .array
  | wire _ (mapping _ _) => .name .dict
  | wire _ (tuple _) => .name .struct
  | wire _ inner => inner.typeExpr

def typeExprs : List ValueType → List TypeExpr
  | [] => []
  | type :: types => type.typeExpr :: typeExprs types

end

theorem typeExprs_eq_map (types : List ValueType) : typeExprs types = types.map typeExpr := by
  induction types with
  | nil => rfl
  | cons type types ih => rw [typeExprs, ih, List.map_cons]

theorem typeExpr_tuple (members : List ValueType) :
    (tuple members).typeExpr = .tuple (members.map typeExpr) := by
  rw [typeExpr, typeExprs_eq_map]

end ValueType

end Introspection
