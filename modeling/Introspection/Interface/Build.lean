import Introspection.Element
import Introspection.Error
import Introspection.Interface

/-!
# Building interfaces

Interfaces are built from a tree of elements, and the first invalid node stops the whole build.
An interface is built from its annotations, nested interfaces, methods, properties and signals in
this order, whatever their order in the document. Only args and the defaults of members depend on
the mode: properties are always native.
-/

namespace Introspection

def nodeName (e : Element) : String :=
  (e.attribute? "name").getD unnamed

/-- A node within an interface, as errors name it. -/
def path (owner name : String) : String :=
  owner ++ "." ++ name

def required (e : Element) (tag name : String) : Except Error String :=
  match e.attribute? name with
  | some value => .ok value
  | none => .error (.missingAttribute tag (nodeName e) name)

/-- The value type of a signature that holds a single complete type. -/
def Signature.resolveSingle (mode : Mode) (signature : String) :
    Except Signature.Error ValueType := do
  let d ← parseSingle signature
  d.resolve mode

def Annotation.ofElement (owner : String) (e : Element) : Except Error Annotation := do
  let value ← required e "annotation" "value"
  return ⟨nodeName e, owner, value⟩

def Annotation.ofChildren (owner : String) (e : Element) : Except Error (List Annotation) :=
  (e.childrenNamed "annotation").mapM (ofElement owner)

/-- An arg without a direction is an input. -/
def Direction.ofElement (owner : String) (e : Element) : Except Error Direction :=
  match e.attribute? "direction" with
  | none => .ok .input
  | some text =>
    match ofText? text with
    | some direction => .ok direction
    | none => .error (.invalidDirection (path owner (nodeName e)) text)

def Arg.ofElement (mode : Mode) (owner : String) (e : Element) : Except Error Arg := do
  let name := nodeName e
  let type ← required e "arg" "type"
  let direction ← Direction.ofElement owner e
  let resolved ← (Signature.resolveSingle mode type).mapError (.signature (path owner name))
  let annotations ← Annotation.ofChildren owner e
  return { name, owner, annotations, type, direction, resolved }

/-- Whether the default value of an arg is kept with its member. -/
def MemberKind.takesDefault : MemberKind → Arg → Bool
  | method, arg => arg.direction == .input
  | signal, _ => true

/-- The default values are taken from the joined types of their args. -/
def Member.ofElement (kind : MemberKind) (mode : Mode) (owner : String) (e : Element) :
    Except Error (Member kind) := do
  let name := nodeName e
  let annotations ← Annotation.ofChildren owner e
  let args ← (e.childrenNamed "arg").mapM (Arg.ofElement mode owner)
  let signature := String.join ((args.filter kind.takesDefault).map Arg.type)
  let defaults ← (Signature.defaults mode signature).mapError (.signature (path owner name))
  return { name, owner, annotations, args, defaults }

def Property.ofElement (owner : String) (e : Element) : Except Error Property := do
  let name := nodeName e
  let type ← required e "property" "type"
  let access ← required e "property" "access"
  let read := grants access "read"
  let write := grants access "write"
  unless read || write do
    throw (.invalidAccess (path owner name) access)
  let resolved ← (Signature.resolveSingle .native type).mapError (.signature (path owner name))
  let value ← resolved.default.mapError (.signature (path owner name))
  let annotations ← Annotation.ofChildren owner e
  return { name, owner, annotations, type, resolved, value, access, read, write }

namespace Interface

mutual

def ofElement (mode : Mode) : Element → Except Error Interface
  | e@⟨_, _, children⟩ => do
    let name := nodeName e
    let annotations ← Annotation.ofChildren name e
    let interfaces ← ofElements mode children
    let methods ← (e.childrenNamed "method").mapM (Member.ofElement .method mode name)
    let properties ← (e.childrenNamed "property").mapM (Property.ofElement name)
    let signals ← (e.childrenNamed "signal").mapM (Member.ofElement .signal mode name)
    return { name, owner := name, annotations, interfaces, methods, properties, signals }

/-- The interfaces among some elements. -/
def ofElements (mode : Mode) : List Element → Except Error (List Interface)
  | [] => .ok []
  | e :: es =>
    if e.tag = "interface" then do
      let interface ← ofElement mode e
      let interfaces ← ofElements mode es
      return interface :: interfaces
    else ofElements mode es

end

/-- The interfaces directly below the root of a document. -/
def ofRoot (mode : Mode) (root : Element) : Except Error (List Interface) :=
  ofElements mode root.children

end Interface

end Introspection
