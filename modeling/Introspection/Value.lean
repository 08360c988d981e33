import Introspection.Double
import Introspection.Resolution

/-!
# Values and their defaults

A sequence and a mapping keep the types of what they hold, so that an empty one is still typed.
The default value of a type is zero or empty in every leaf; the default variant holds an empty
text. Only a byte wrapped for the wire has no default.
-/

namespace Introspection

inductive Value
  | boolean (b : Bool)
  | integer (n : Int64)
  | double (x : Double)
  | text (s : String)
  | bytes (bs : List UInt8)
  | variant (inner : Value)
  | sequence (element : ValueType) (items : List Value)
  | mapping (key value : ValueType) (entries : List (Value × Value))
  | tuple (members : List Value)
  /-- A value along with the signature needed to put it on the wire. -/
  | wire (signature : String) (value : Value)

namespace Value

/-- Induction over the tree, with the hypothesis for every part of a container. -/
@[elab_as_elim, induction_eliminator]
theorem induction {motive : Value → Prop} (boolean : ∀ b, motive (.boolean b))
    (integer : ∀ n, motive (.integer n)) (double : ∀ x, motive (.double x))
    (text : ∀ s, motive (.text s)) (bytes : ∀ bs, motive (.bytes bs))
    (variant : ∀ inner, motive inner → motive (.variant inner))
    (sequence : ∀ element items, (∀ v ∈ items, motive v) → motive (.sequence element items))
    (mapping : ∀ key value entries, (∀ entry ∈ entries, motive entry.1 ∧ motive entry.2) →
      motive (.mapping key value entries))
    (tuple : ∀ members, (∀ v ∈ members, motive v) → motive (.tuple members))
    (wire : ∀ signature value, motive value → motive (.wire signature value)) (v : Value) :
    motive v :=
  @Value.rec motive (fun vs ↦ ∀ v ∈ vs, motive v)
    (fun entries ↦ ∀ entry ∈ entries, motive entry.1 ∧ motive entry.2)
    (fun entry ↦ motive entry.1 ∧ motive entry.2) boolean integer double text bytes variant sequence
    mapping tuple wire nofun (fun _ _ h hs ↦ List.forall_mem_cons.2 ⟨h, hs⟩) nofun
    (fun _ _ h hs ↦ List.forall_mem_cons.2 ⟨h, hs⟩) (fun _ _ h h' ↦ ⟨h, h'⟩) v

def signature? : Value → Option String
  | wire signature _ => some signature
  | _ => none

mutual

/-- The value without its wrappers at any level, also in the types that it keeps. -/
def erase : Value → Value
  | variant inner => variant inner.erase
  | sequence element items => sequence element.erase (eraseAll items)
  | mapping key value entries => mapping key.erase value.erase (eraseEntries entries)
  | tuple members => tuple (eraseAll members)
  | wire _ value => value.erase
  | boolean b => boolean b
  | integer n => integer n
  | double x => double x
  | text s => text s
  | bytes bs => bytes bs

def eraseAll : List Value → List Value
  | [] => []
  | v :: vs => v.erase :: eraseAll vs

def eraseEntries : List (Value × Value) → List (Value × Value)
  | [] => []
  | (k, v) :: entries => (k.erase, v.erase) :: eraseEntries entries

end

theorem eraseAll_eq_map (values : List Value) : eraseAll values = values.map erase := by
  induction values with
  | nil => rfl
  | cons value values ih => rw [eraseAll, ih, List.map_cons]

end Value

namespace ValueType

mutual

/-- The default value of a type. -/
def default : ValueType → Except Signature.Error Value
  | boolean => .ok (.boolean false)
  | integer _ => .ok (.integer 0)
  | double => .ok (.double .zero)
  | text _ => .ok (.text "")
  | bytes => .ok (.bytes [])
  | any => .ok (.variant (.text ""))
  | sequence element => .ok (.sequence element [])
  | mapping key value => .ok (.mapping key value [])
  | tuple members => do
    let members ← defaultAll members
    return .tuple members
  | wire signature (integer .byte) => .error (.noDefault signature)
  | wire signature inner => do
    let value ← inner.default
    return .wire signature value

def defaultAll : List ValueType → Except Signature.Error (List Value)
  | [] => .ok []
  | type :: types => do
    let value ← type.default
    let values ← defaultAll types
    return value :: values

end

theorem defaultAll_eq_mapM (types : List ValueType) : defaultAll types = types.mapM default := by
  induction types with
  | nil => rfl
  | cons type types ih => rw [defaultAll, ih, List.mapM_cons]

theorem default_tuple (members : List ValueType) :
    (tuple members).default = do
      let values ← members.mapM default
      return .tuple values := by
  rw [default, defaultAll_eq_mapM]

theorem default_wire {signature : String} {inner : ValueType} (h : inner ≠ integer .byte) :
    (wire signature inner).default = do
      let value ← inner.default
      return .wire signature value := by
  rw [default]
  exact h

theorem default_wire_tuple (signature : String) (members : List ValueType) :
    (wire signature (tuple members)).default = do
      let value ← (tuple members).default
      return .wire signature value :=
  default_wire nofun

end ValueType

/-- The default values of all complete types of a signature. -/
def Signature.defaults (mode : Mode) (signature : String) :
    Except Signature.Error (List Value) := do
  let types ← resolve mode signature
  types.mapM ValueType.default

end Introspection
