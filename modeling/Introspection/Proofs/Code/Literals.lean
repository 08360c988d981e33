import Introspection.Proofs.Code.ExprTexts
import Introspection.Proofs.Code.Typing
import Introspection.Proofs.Signature.Acceptance
import Introspection.Proofs.Signature.UniqueReading

/-!
# Literals on the wire

The expression of a default on the wire tells the signature of its type: an array or a dictionary
names the signatures of what it holds, a struct shows its fields, and every other form belongs to
one signature only. So the signature can be read back from the expression. The text of the
expression is enough for this, since it is read in one way only.
-/

namespace Introspection

open Code

/-! ## Reading a signature back -/

namespace Code

/-- No number on the wire is a byte. -/
def IntType.signature? : IntType → Option String
  | .u8 => none
  | .i16 => some "n"
  | .u16 => some "q"
  | .i32 => some "i"
  | .u32 => some "u"
  | .i64 => some "x"
  | .u64 => some "t"

namespace Expr

mutual

/-- The signature that a default on the wire was written for. -/
def signature? : Expr → Option String
  | bool b => if b then none else some "b"
  | int n (some type) => if n = 0 then type.signature? else none
  | float x => if x = .zero then some "d" else none
  | string s => if s = "" then some "s" else none
  | default .ownedObjectPath => some "o"
  | default .ownedSignature => some "g"
  | default .ownedFd => some "h"
  | ownedValue _ => some "v"
  | emptyVec (.name (.int .u8)) => some "ay"
  | array element => some ("a" ++ element)
  | dict key value => some ("a\x7b" ++ key ++ value ++ "\x7d")
  | struct fields => do
    let members ← signatures? fields
    return "(" ++ members ++ ")"
  | _ => none

/-- The joined signatures of several defaults. -/
def signatures? : List Expr → Option String
  | [] => some ""
  | e :: es => do
    let first ← e.signature?
    let rest ← signatures? es
    return first ++ rest

end

end Expr

end Code

/-! ## The literal of a descriptor -/

def Primitive.wiredExpr : Primitive → Expr
  | .boolean => .bool false
  | .byte => .int 0 (some .u8)
  | .int16 => .int 0 (some .i16)
  | .uint16 => .int 0 (some .u16)
  | .int32 => .int 0 (some .i32)
  | .uint32 => .int 0 (some .u32)
  | .int64 => .int 0 (some .i64)
  | .uint64 => .int 0 (some .u64)
  | .double => .float .zero
  | .string => .string ""
  | .objectPath => .default .ownedObjectPath
  | .signature => .default .ownedSignature
  | .unixFd => .default .ownedFd
  | .variant => .ownedValue (.string "")

namespace Descriptor

mutual

/-- The expression of the default of a descriptor on the wire. -/
def wiredExpr : Descriptor → Expr
  | primitive p => p.wiredExpr
  | array (primitive .byte) => .emptyVec (.name (.int .u8))
  | array element => .array element.text
  | dictionary key value => .dict key.text value.text
  | struct members => .struct (wiredExprs members)

def wiredExprs : List Descriptor → List Expr
  | [] => []
  | d :: ds => d.wiredExpr :: wiredExprs ds

end

theorem wiredExprs_eq_map (ds : List Descriptor) : wiredExprs ds = ds.map wiredExpr := by
  induction ds with
  | nil => rfl
  | cons d ds ih => rw [wiredExprs, ih, List.map_cons]

theorem wiredExpr_struct (members : List Descriptor) :
    (struct members).wiredExpr = .struct (members.map wiredExpr) := by
  rw [wiredExpr, wiredExprs_eq_map]

theorem wiredExpr_array {element : Descriptor} (h : element ≠ primitive .byte) :
    (array element).wiredExpr = .array element.text := by
  rw [wiredExpr]
  exact h

theorem exists_default_wiredExpr {d : Descriptor} (h : ¬ d.HasLooseByte) :
    ∃ value, d.wired.default = .ok value ∧ value.expr = .ok d.wiredExpr := by
  induction d with
  | primitive p =>
    have hbyte : p ≠ .byte := by simpa using h
    cases p with
    | byte => exact absurd rfl hbyte
    | _ => exact ⟨_, rfl, rfl⟩
  | array element =>
    by_cases hbyte : element = primitive .byte
    · subst hbyte
      exact ⟨_, rfl, rfl⟩
    · rw [wired_array hbyte, wiredExpr_array hbyte]
      refine ⟨_, rfl, ?_⟩
      rw [Value.expr, elementSignature?_text_array, signature?_wired]
      rfl
  | dictionary key value =>
    refine ⟨_, rfl, ?_⟩
    rw [Value.expr, signature?_wired, signature?_wired]
    rfl
  | struct members ih =>
    have hmembers : ∀ d ∈ members, ∃ value, d.wired.default = .ok value ∧
        ∃ e, value.expr = .ok e ∧ d.wiredExpr = e := by
      intro d hd
      obtain ⟨value, hvalue, he⟩ := ih d hd fun hloose ↦ h (.member hd hloose)
      exact ⟨value, hvalue, _, he, rfl⟩
    obtain ⟨values, hvalues, es, hes, heq⟩ := exists_exprs_of_defaults hmembers
    refine ⟨.wire (struct members).text (.tuple values), ?_, ?_⟩
    · rw [wired_struct, ValueType.default_wire_tuple, hvalues]
      rfl
    · rw [Value.expr, hes, wiredExpr_struct, map_eq_of_forall₂ heq]
      rfl

theorem text_array (element : Descriptor) : (array element).text = "a" ++ element.text := by
  rw [← String.toList_inj]
  simp [codes]

theorem text_dictionary (key value : Descriptor) :
    (dictionary key value).text = "a\x7b" ++ key.text ++ value.text ++ "\x7d" := by
  rw [← String.toList_inj]
  simp [codes]

theorem text_struct (members : List Descriptor) :
    (struct members).text = "(" ++ String.join (members.map text) ++ ")" := by
  rw [← String.toList_inj, String.toList_append, String.toList_append,
    Signature.toList_join_text, toList_text, codes]
  rfl

theorem signatures?_map_wiredExpr {ds : List Descriptor}
    (h : ∀ d ∈ ds, d.wiredExpr.signature? = some d.text) :
    Expr.signatures? (ds.map wiredExpr) = some (String.join (ds.map text)) := by
  induction ds with
  | nil => rfl
  | cons d ds ih =>
    obtain ⟨hd, hds⟩ := List.forall_mem_cons.1 h
    rw [List.map_cons, List.map_cons, Expr.signatures?, hd, ih hds, String.join_cons]
    rfl

/-- The literal of a descriptor is read back as the text of the descriptor. -/
theorem signature?_wiredExpr {d : Descriptor} (h : ¬ d.HasLooseByte) :
    d.wiredExpr.signature? = some d.text := by
  induction d with
  | primitive p =>
    have hbyte : p ≠ .byte := by simpa using h
    cases p with
    | byte => exact absurd rfl hbyte
    | _ => rfl
  | array element =>
    by_cases hbyte : element = primitive .byte
    · subst hbyte
      rfl
    · rw [wiredExpr_array hbyte, Expr.signature?, text_array]
  | dictionary key value => rw [wiredExpr, Expr.signature?, text_dictionary]
  | struct members ih =>
    have hmembers : Expr.signatures? (members.map wiredExpr) =
        some (String.join (members.map text)) :=
      signatures?_map_wiredExpr fun d hd ↦ ih d hd fun hloose ↦ h (.member hd hloose)
    rw [wiredExpr_struct, Expr.signature?, hmembers, text_struct]
    rfl

end Descriptor

/-! ## The text of a literal -/

theorem Primitive.signature?_wiredExpr (p : Primitive) :
    p.wiredExpr.signature? = if p = .byte then none else some (Descriptor.primitive p).text := by
  cases p <;> rfl

theorem Primitive.wiredExpr_injective : Function.Injective wiredExpr := by
  intro p p' h
  have hread : (if p = .byte then none else some (Descriptor.primitive p).text) =
      if p' = .byte then none else some (Descriptor.primitive p').text := by
    rw [← signature?_wiredExpr, ← signature?_wiredExpr, h]
  split at hread
  · next hp =>
    split at hread
    · next hp' => rw [hp, hp']
    · cases hread
  · split at hread
    · cases hread
    · exact Descriptor.primitive.inj (Descriptor.text_injective (Option.some.inj hread))

namespace Descriptor

theorem eq_primitive_of_wiredExpr_eq {p : Primitive} {d : Descriptor}
    (h : d.wiredExpr = p.wiredExpr) : d = primitive p := by
  cases d with
  | primitive p' => rw [Primitive.wiredExpr_injective h]
  | array element =>
    by_cases hbyte : element = primitive .byte
    · subst hbyte
      cases p <;> cases h
    · rw [wiredExpr_array hbyte] at h
      cases p <;> cases h
  | dictionary | struct => cases p <;> cases h

theorem eq_array_of_wiredExpr_eq {element d : Descriptor}
    (h : d.wiredExpr = (array element).wiredExpr) : d = array element := by
  by_cases hbyte : element = primitive .byte
  · subst hbyte
    cases d with
    | primitive p => exact (eq_primitive_of_wiredExpr_eq h.symm).symm
    | array element' =>
      by_cases hbyte' : element' = primitive .byte
      · rw [hbyte']
      · rw [wiredExpr_array hbyte'] at h
        cases h
    | dictionary | struct => cases h
  · rw [wiredExpr_array hbyte] at h
    cases d with
    | primitive p => cases p <;> cases h
    | array element' =>
      by_cases hbyte' : element' = primitive .byte
      · subst hbyte'
        cases h
      · rw [wiredExpr_array hbyte'] at h
        rw [text_injective (Expr.array.inj h)]
    | dictionary | struct => cases h

/-- Different descriptors have different literals. -/
theorem wiredExpr_injective : Function.Injective wiredExpr := by
  intro d d' h
  induction d generalizing d' with
  | primitive p => exact (eq_primitive_of_wiredExpr_eq h.symm).symm
  | array element => exact (eq_array_of_wiredExpr_eq h.symm).symm
  | dictionary key value =>
    cases d' with
    | primitive p' => exact eq_primitive_of_wiredExpr_eq h
    | array element' => exact eq_array_of_wiredExpr_eq h
    | dictionary key' value' =>
      obtain ⟨hkey, hvalue⟩ := Expr.dict.inj h
      rw [text_injective hkey, text_injective hvalue]
    | struct members' => cases h
  | struct members ih =>
    cases d' with
    | primitive p' => exact eq_primitive_of_wiredExpr_eq h
    | array element' => exact eq_array_of_wiredExpr_eq h
    | dictionary key' value' => cases h
    | struct members' =>
      rw [wiredExpr_struct, wiredExpr_struct] at h
      rw [eq_of_map_eq_map (Expr.struct.inj h) fun d hd d' _ heq ↦ ih d hd heq]

theorem eq_of_text_wiredExpr_eq {d d' : Descriptor} (h : d.wiredExpr.text = d'.wiredExpr.text) :
    d = d' :=
  wiredExpr_injective (Expr.text_injective h)

/-! ## Literals of defaults -/

/-- The default of the descriptor on the wire is written as the expression. -/
def HasWireLiteral (d : Descriptor) (e : Expr) : Prop :=
  ∃ type value, d.resolve .wire = .ok type ∧ type.default = .ok value ∧ value.expr = .ok e

theorem hasWireLiteral_iff {d : Descriptor} {e : Expr} :
    d.HasWireLiteral e ↔ ¬ d.HasLooseByte ∧ e = d.wiredExpr := by
  constructor
  · rintro ⟨type, value, htype, hvalue, he⟩
    obtain ⟨hloose, rfl⟩ := resolve_wire_eq_ok_iff.1 htype
    obtain ⟨value', hvalue', he'⟩ := exists_default_wiredExpr hloose
    cases hvalue.symm.trans hvalue'
    exact ⟨hloose, Except.ok.inj (he.symm.trans he')⟩
  · rintro ⟨hloose, rfl⟩
    obtain ⟨value, hvalue, he⟩ := exists_default_wiredExpr hloose
    exact ⟨d.wired, value, resolve_wire_eq_ok_iff.2 ⟨hloose, rfl⟩, hvalue, he⟩

/-- The default of a descriptor on the wire is written as an expression from which exactly the
text of the descriptor is read back. No other descriptor has a literal with the same text. -/
theorem wire_literal_reads_back {d : Descriptor} {type : ValueType}
    (h : d.resolve .wire = .ok type) :
    ∃ value, type.default = .ok value ∧ ∃ e, value.expr = .ok e ∧ e.signature? = some d.text ∧
      ∀ d' e', HasWireLiteral d' e' → e'.text = e.text → d' = d := by
  obtain ⟨hloose, rfl⟩ := resolve_wire_eq_ok_iff.1 h
  obtain ⟨value, hvalue, he⟩ := exists_default_wiredExpr hloose
  refine ⟨value, hvalue, d.wiredExpr, he, signature?_wiredExpr hloose, ?_⟩
  intro d' e' hd' htext
  obtain ⟨-, rfl⟩ := hasWireLiteral_iff.1 hd'
  exact eq_of_text_wiredExpr_eq htext

/-- A struct with containers of bytes, a dictionary of variants, and a nested struct. -/
def capture : Descriptor :=
  .struct
    [.array (.primitive .byte), .array (.struct [.primitive .byte, .primitive .double]),
      .dictionary (.primitive .string) (.primitive .variant),
      .struct [.primitive .unixFd, .primitive .int16]]

theorem wire_literal_reads_back_capture :
    capture.resolve .wire = .ok capture.wired ∧
      ∃ value, capture.wired.default = .ok value ∧ ∃ e, value.expr = .ok e ∧
        e.signature? = some "(aya(yd)a\x7bsv\x7d(hn))" ∧
        ¬ HasWireLiteral (.struct [.array (.primitive .byte)]) e := by
  have h : capture.resolve .wire = .ok capture.wired := rfl
  obtain ⟨value, hvalue, e, he, hreads, honly⟩ := wire_literal_reads_back h
  refine ⟨h, value, hvalue, e, he, hreads, ?_⟩
  intro hother
  cases honly _ e hother rfl

end Descriptor

end Introspection
