import Introspection.Code.TypeExpr
import Introspection.Text.Quoted
import Introspection.Value

/-!
# Expressions

The expressions that generated code uses to construct values. A native value is written out in
full. A value on the wire keeps its signature instead: an array or a dictionary is written as an
empty one of the right signature, and a text of any other signature than `s` as the default of
its type.
-/

namespace Introspection.Code

inductive Expr
  | bool (b : Bool)
  | int (n : Int) (suffix : Option IntType)
  /-- A finite double. -/
  | float (x : Double)
  | string (s : String)
  | emptyVec (element : TypeExpr)
  | vec (items : List Expr)
  | ownedValue (inner : Expr)
  | emptyMap (key value : TypeExpr)
  | map (key value : TypeExpr) (entries : List (Expr × Expr))
  | tuple (members : List Expr)
  /-- The default value of a type. -/
  | default (type : TypeName)
  /-- The empty wire array with elements of a signature. -/
  | array (element : String)
  /-- The empty wire dictionary with keys and values of two signatures. -/
  | dict (key value : String)
  | struct (fields : List Expr)

/-- Induction over the tree, with the hypothesis for every part of an expression. -/
@[elab_as_elim, induction_eliminator]
theorem Expr.induction {motive : Expr → Prop} (bool : ∀ b, motive (.bool b))
    (int : ∀ n suffix, motive (.int n suffix)) (float : ∀ x, motive (.float x))
    (string : ∀ s, motive (.string s)) (emptyVec : ∀ element, motive (.emptyVec element))
    (vec : ∀ items, (∀ e ∈ items, motive e) → motive (.vec items))
    (ownedValue : ∀ inner, motive inner → motive (.ownedValue inner))
    (emptyMap : ∀ key value, motive (.emptyMap key value))
    (map : ∀ key value entries, (∀ entry ∈ entries, motive entry.1 ∧ motive entry.2) →
      motive (.map key value entries))
    (tuple : ∀ members, (∀ e ∈ members, motive e) → motive (.tuple members))
    (default : ∀ type, motive (.default type)) (array : ∀ element, motive (.array element))
    (dict : ∀ key value, motive (.dict key value))
    (struct : ∀ fields, (∀ e ∈ fields, motive e) → motive (.struct fields)) (e : Expr) :
    motive e :=
  @Expr.rec motive (fun es ↦ ∀ e ∈ es, motive e)
    (fun entries ↦ ∀ entry ∈ entries, motive entry.1 ∧ motive entry.2)
    (fun entry ↦ motive entry.1 ∧ motive entry.2) bool int float string emptyVec vec ownedValue
    emptyMap map tuple default array dict struct nofun
    (fun _ _ h hs ↦ List.forall_mem_cons.2 ⟨h, hs⟩) nofun
    (fun _ _ h hs ↦ List.forall_mem_cons.2 ⟨h, hs⟩) (fun _ _ h h' ↦ ⟨h, h'⟩) e

/-! ## Text -/

/-- The inside of a string literal. A NUL before an octal digit is written in two digits, lest
the next one be read as part of it. -/
def literalBody : List Char → List Char
  | [] => []
  | c :: rest =>
    if c = '\x00' && rest.head?.any fun next ↦ '0' ≤ next && next ≤ '7' then
      '\\' :: 'x' :: '0' :: '0' :: literalBody rest
    else Text.escape '"' c ++ literalBody rest

def stringLiteral (s : String) : String :=
  String.ofList ('"' :: (literalBody s.toList ++ ['"']))

/-- The sign is a token of its own. -/
def signed (negative : Bool) (magnitude : String) : String :=
  if negative then "- " ++ magnitude else magnitude

def signatureText (signature : String) : String :=
  "zvariant :: Signature :: from_static_str_unchecked (" ++ stringLiteral signature ++ ")"

theorem signatureText_eq (signature : String) :
    signatureText signature =
      "zvariant :: Signature :: from_static_str_unchecked (" ++ stringLiteral signature ++ ")" :=
  rfl

def commaSeparated (pieces : List String) : String :=
  " , ".intercalate pieces

namespace Expr

mutual

def text : Expr → String
  | bool b => if b then "true" else "false"
  | int n suffix => signed (n < 0) (toString n.natAbs ++ (suffix.map IntType.text).getD "")
  | float x => signed x.isNegative x.magnitude
  | string s => if s.isEmpty then "String :: new ()" else "String :: from (" ++ stringLiteral s ++ ")"
  | emptyVec element => "Vec :: < " ++ element.text ++ " > :: new ()"
  | vec items => "vec ! [" ++ commaSeparated (texts items) ++ "]"
  | ownedValue inner =>
    "zvariant :: OwnedValue :: from (zvariant :: Value :: from (" ++ inner.text ++ "))"
  | emptyMap key value =>
    "std :: collections :: HashMap :: < " ++ key.text ++ " , " ++ value.text ++ " > :: new ()"
  | map key value entries =>
    "vec ! [" ++ commaSeparated (entryTexts entries) ++ "] . into_iter () . collect :: < " ++
      "std :: collections :: HashMap < " ++ key.text ++ " , " ++ value.text ++ " >> ()"
  | tuple members => "(" ++ spaced ((texts members).map (· ++ " ,")) ++ ")"
  | default type => "< " ++ type.text ++ " > :: default ()"
  | array element => "zvariant :: Array :: new (" ++ signatureText element ++ ")"
  | dict key value =>
    "zvariant :: Dict :: new (" ++ signatureText key ++ " , " ++ signatureText value ++ " ,)"
  | struct fields =>
    "zvariant :: StructureBuilder :: new () " ++
      String.join ((texts fields).map fun field ↦ ". add_field (" ++ field ++ ") ") ++ ". build ()"

def texts : List Expr → List String
  | [] => []
  | e :: es => e.text :: texts es

def entryTexts : List (Expr × Expr) → List String
  | [] => []
  | (k, v) :: entries => ("(" ++ k.text ++ " , " ++ v.text ++ ")") :: entryTexts entries

end

theorem texts_eq_map (es : List Expr) : texts es = es.map text := by
  induction es with
  | nil => rfl
  | cons e es ih =>
    rw [List.map_cons, ← ih]
    rfl

theorem entryTexts_eq_map (entries : List (Expr × Expr)) :
    entryTexts entries =
      entries.map fun entry ↦ "(" ++ entry.1.text ++ " , " ++ entry.2.text ++ ")" := by
  induction entries with
  | nil => rfl
  | cons entry entries ih =>
    rw [List.map_cons, ← ih]
    rfl

theorem text_int (n : Int) (suffix : Option IntType) :
    (int n suffix).text =
      signed (n < 0) (toString n.natAbs ++ (suffix.map IntType.text).getD "") := rfl

theorem text_float (x : Double) : (float x).text = signed x.isNegative x.magnitude := rfl

theorem text_string (s : String) :
    (string s).text =
      if s.isEmpty then "String :: new ()" else "String :: from (" ++ stringLiteral s ++ ")" := rfl

theorem text_emptyVec (element : TypeExpr) :
    (emptyVec element).text = "Vec :: < " ++ element.text ++ " > :: new ()" := rfl

theorem text_vec (items : List Expr) :
    (vec items).text = "vec ! [" ++ commaSeparated (items.map text) ++ "]" := by
  rw [← texts_eq_map]
  rfl

theorem text_ownedValue (inner : Expr) :
    (ownedValue inner).text =
      "zvariant :: OwnedValue :: from (zvariant :: Value :: from (" ++ inner.text ++ "))" := rfl

theorem text_emptyMap (key value : TypeExpr) :
    (emptyMap key value).text =
      "std :: collections :: HashMap :: < " ++ key.text ++ " , " ++ value.text ++ " > :: new ()" :=
  rfl

theorem text_map (key value : TypeExpr) (entries : List (Expr × Expr)) :
    (map key value entries).text =
      "vec ! [" ++ commaSeparated (entries.map fun entry ↦
        "(" ++ entry.1.text ++ " , " ++ entry.2.text ++ ")") ++
        "] . into_iter () . collect :: < " ++
          "std :: collections :: HashMap < " ++ key.text ++ " , " ++ value.text ++ " >> ()" := by
  rw [← entryTexts_eq_map]
  rfl

theorem text_tuple (members : List Expr) :
    (tuple members).text = "(" ++ spaced (members.map (·.text ++ " ,")) ++ ")" := by
  have hmembers : (texts members).map (· ++ " ,") = members.map (·.text ++ " ,") := by
    rw [texts_eq_map, List.map_map]
    rfl
  rw [← hmembers]
  rfl

theorem text_default (type : TypeName) :
    (default type).text = "< " ++ type.text ++ " > :: default ()" := rfl

theorem text_array (element : String) :
    (array element).text = "zvariant :: Array :: new (" ++ signatureText element ++ ")" := rfl

theorem text_dict (key value : String) :
    (dict key value).text =
      "zvariant :: Dict :: new (" ++ signatureText key ++ " , " ++ signatureText value ++ " ,)" :=
  rfl

theorem text_struct (fields : List Expr) :
    (struct fields).text =
      "zvariant :: StructureBuilder :: new () " ++
        String.join (fields.map fun field ↦ ". add_field (" ++ field.text ++ ") ") ++
          ". build ()" := by
  have hfields : (texts fields).map (fun field ↦ ". add_field (" ++ field ++ ") ") =
      fields.map fun field ↦ ". add_field (" ++ field.text ++ ") " := by
    rw [texts_eq_map, List.map_map]
    rfl
  rw [← hfields]
  rfl

end Expr

/-! ## Construction of values -/

/-- Why a value has no expression. -/
inductive LiteralError
  | notFinite
  /-- A wire array whose own signature does not start with a one-byte code. -/
  | noElementSignature
  deriving DecidableEq

/-- An integer on the wire takes the width that its signature names, keeping the low bits. -/
def wireInt (signature : String) (n : Int64) : Expr :=
  if signature = "y" then .int n.toUInt64.toUInt8.toNat (some .u8)
  else if signature = "n" then .int n.toInt16.toInt (some .i16)
  else if signature = "q" then .int n.toUInt64.toUInt16.toNat (some .u16)
  else if signature = "i" then .int n.toInt32.toInt (some .i32)
  else if signature = "u" then .int n.toUInt64.toUInt32.toNat (some .u32)
  else if signature = "x" then .int n.toInt (some .i64)
  else if signature = "t" then .int n.toUInt64.toNat (some .u64)
  else .int n.toInt none

def byteVec (bs : List UInt8) : Expr :=
  if bs.isEmpty then .emptyVec (.name (.int .u8)) else .vec (bs.map fun b ↦ .int b.toNat (some .u8))

/-- A text on the wire is written out only if its signature says that it is a plain string. -/
def wireText (signature : String) (s : String) : Expr :=
  if signature = "s" then .string s
  else .default (((signature.toList.head?.bind Primitive.ofCode?).map Primitive.typeName).getD .string)

/-- The signature without its first code, if that code is one byte long. -/
def elementSignature? (signature : String) : Option String :=
  match signature.toList with
  | [] => none
  | c :: rest => if Text.isAscii c then some (String.ofList rest) else none

end Introspection.Code

namespace Introspection.Value

open Code

mutual

/-- The expression that constructs a value. -/
def expr : Value → Except LiteralError Expr
  | boolean b => .ok (.bool b)
  | integer n => .ok (.int n.toInt none)
  | double x => if x.isFinite then .ok (.float x) else .error .notFinite
  | text s => .ok (.string s)
  | bytes bs => .ok (byteVec bs)
  | variant inner => do
    let inner ← inner.expr
    return .ownedValue inner
  | sequence element [] => .ok (.emptyVec element.typeExpr)
  | sequence _ items => do
    let items ← exprs items
    return .vec items
  | mapping key value [] => .ok (.emptyMap key.typeExpr value.typeExpr)
  | mapping key value entries => do
    let entries ← entryExprs entries
    return .map key.typeExpr value.typeExpr entries
  | tuple members => do
    let members ← exprs members
    return .tuple members
  | wire signature (integer n) => .ok (wireInt signature n)
  | wire signature (text s) => .ok (wireText signature s)
  | wire signature (sequence element _) =>
    match elementSignature? signature with
    | some rest => .ok (.array (element.signature?.getD rest))
    | none => .error .noElementSignature
  | wire _ (mapping key value _) =>
    .ok (.dict (key.signature?.getD "") (value.signature?.getD ""))
  | wire _ (tuple members) => do
    let members ← exprs members
    return .struct members
  | wire _ inner => inner.expr

def exprs : List Value → Except LiteralError (List Expr)
  | [] => .ok []
  | v :: vs => do
    let e ← v.expr
    let es ← exprs vs
    return e :: es

def entryExprs : List (Value × Value) → Except LiteralError (List (Expr × Expr))
  | [] => .ok []
  | (k, v) :: entries => do
    let k ← k.expr
    let v ← v.expr
    let entries ← entryExprs entries
    return (k, v) :: entries

end

theorem exprs_eq_mapM (values : List Value) : exprs values = values.mapM expr := by
  induction values with
  | nil => rfl
  | cons value values ih => rw [exprs, ih, List.mapM_cons]

/-- The two expressions of an entry. -/
def entryExpr (entry : Value × Value) : Except LiteralError (Expr × Expr) := do
  let k ← entry.1.expr
  let v ← entry.2.expr
  return (k, v)

theorem entryExprs_eq_mapM (entries : List (Value × Value)) :
    entryExprs entries = entries.mapM entryExpr := by
  induction entries with
  | nil => rfl
  | cons entry entries ih =>
    rw [entryExprs, ih, List.mapM_cons, entryExpr]
    cases entry.1.expr with
    | error => rfl
    | ok k => cases entry.2.expr <;> rfl

theorem expr_sequence {items : List Value} (element : ValueType) (h : items ≠ []) :
    (sequence element items).expr = do
      let es ← exprs items
      return .vec es := by
  rw [expr]
  exact h

theorem expr_mapping {entries : List (Value × Value)} (key value : ValueType) (h : entries ≠ []) :
    (mapping key value entries).expr = do
      let es ← entryExprs entries
      return .map key.typeExpr value.typeExpr es := by
  rw [expr]
  exact h

end Introspection.Value
