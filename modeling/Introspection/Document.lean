import Introspection.Interface.Build
import Introspection.Markup.Reader

/-!
# Documents

An introspection document is markup. The elements of seven tags are read, each with the five fields
that it may have, and all other elements are ignored with everything in them. What was read is then
turned into a tree, with an attribute for every field that was given. Text between elements has no
meaning, but a text that is a tag is taken for a mistake.
-/

namespace Introspection

/-! ## Fields -/

/-- What is read of the attributes of an element. -/
structure Fields where
  name : Option String
  type : Option String
  direction : Option String
  access : Option String
  value : Option String

namespace Fields

/-- The value of a field, which must not be given twice. -/
def field? (attributes : List (Markup.Name × String)) (name : String) : Option (Option String) :=
  match attributes.filter fun a ↦ a.1.base == name with
  | [] => some none
  | [a] => some (some a.2)
  | _ => none

/-- The fields among some attributes. All other attributes are ignored. -/
def ofAttributes? (attributes : List (Markup.Name × String)) : Option Fields := do
  let name ← field? attributes "name"
  let type ← field? attributes "type"
  let direction ← field? attributes "direction"
  let access ← field? attributes "access"
  let value ← field? attributes "value"
  return { name, type, direction, access, value }

/-- The fields with the names of the attributes that they become. -/
def pairs (fields : Fields) : List (String × Option String) :=
  [("name", fields.name), ("type", fields.type), ("direction", fields.direction),
    ("access", fields.access), ("value", fields.value)]

/-- Sets an attribute if it has a value. -/
def set (attributes : Attributes) (pair : String × Option String) : Attributes :=
  match pair.2 with
  | none => attributes
  | some value => attributes.insert pair.1 value

def attributes (fields : Fields) : Attributes :=
  fields.pairs.foldl set .empty

end Fields

/-! ## Elements as they are read -/

inductive Child
  | known (tag : String) (fields : Fields) (children : List Child)
  | ignored

namespace Child

/-- The tags of the elements that are not ignored. -/
def tags : List String :=
  ["node", "interface", "method", "signal", "property", "arg", "annotation"]

/-- A text without the blanks around it. -/
def trimmed (s : String) : String :=
  String.ofList
    ((s.toList.dropWhile Markup.isBlank).reverse.dropWhile Markup.isBlank).reverse

mutual

/-- The scope of a name is not looked at. -/
def ofNode? : Markup → Option Child
  | .text s => if tags.contains (trimmed s) then none else some ignored
  | .element name attributes content =>
    match tags.find? (· == name.base) with
    | some tag => do
      let fields ← Fields.ofAttributes? attributes
      let children ← ofContent? content
      return known tag fields children
    | none => some ignored

def ofContent? : List Markup → Option (List Child)
  | [] => some []
  | node :: nodes => do
    let child ← ofNode? node
    let children ← ofContent? nodes
    return child :: children

end

mutual

def toElement? : Child → Option Element
  | known tag fields children => some ⟨tag, fields.attributes, toElements children⟩
  | ignored => none

/-- Nothing is left of what was ignored. -/
def toElements : List Child → List Element
  | [] => []
  | child :: children => child.toElement?.toList ++ toElements children

end

end Child

/-! ## Documents -/

namespace Element

/-- The root of a document, given how its markup is read. Whatever the name of the root, it is taken
for a node. -/
def ofDocument? (read : List Char → Option Markup) (document : List Char) : Option Element :=
  match read document with
  | some (.element _ attributes content) => do
    let fields ← Fields.ofAttributes? attributes
    let children ← Child.ofContent? content
    (Child.known "node" fields children).toElement?
  | _ => none

/-- The root of a document given as text. -/
def ofText? (text : String) : Option Element :=
  ofDocument? Markup.read text.toList

/-- The characters of the bytes from a position on, up to the first ones that are none. -/
def decodeFrom (bytes : ByteArray) (i : Nat) : List Char :=
  match _h : bytes.utf8DecodeChar? i with
  | none => []
  | some c => c :: decodeFrom bytes (i + c.utf8Size)
termination_by bytes.size - i
decreasing_by
  have hi : i < bytes.size := ByteArray.lt_size_of_isSome_utf8DecodeChar? (by simp [_h])
  have hc := c.utf8Size_pos
  omega

/-- The root of a document given as bytes. A document that is complete before the first bytes
that are no text can be read. -/
def ofBytes? (bytes : ByteArray) : Option Element :=
  ofDocument? Markup.read (decodeFrom bytes 0)

end Element

/-- The interfaces of a document given as text. -/
def Interface.ofText (mode : Mode) (text : String) : Except Error (List Interface) :=
  match Element.ofText? text with
  | none => .error .malformed
  | some root => ofRoot mode root

end Introspection
