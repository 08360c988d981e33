import Introspection.Proofs.Outcome
import Introspection.Value

/-!
# Values of a type

A value conforms to a type if it has the form of the type node by node: tuples of the same length,
the same signatures around the same parts, the same types kept by its containers, and numbers that
the primitive of their type can hold. Among the conforming values there is at most one whose leaves
are all zero or empty. It is the default, and it is there unless a wrapped byte is reached from the
root through tuples and wrappers. All of this holds of arbitrary types, also of those that no
descriptor resolves to.
-/

namespace Introspection

/-- The numbers that an integer primitive has room for. Other primitives set no bound. -/
def Primitive.Holds : Primitive → Int → Prop
  | byte, n => 0 ≤ n ∧ n < 0x100
  | int16, n => -0x8000 ≤ n ∧ n < 0x8000
  | uint16, n => 0 ≤ n ∧ n < 0x10000
  | int32, n => -0x80000000 ≤ n ∧ n < 0x80000000
  | uint32, n => 0 ≤ n ∧ n < 0x100000000
  | int64, n => -0x8000000000000000 ≤ n ∧ n < 0x8000000000000000
  | uint64, n => 0 ≤ n ∧ n < 0x10000000000000000
  | _, _ => True

theorem Primitive.holds_zero (p : Primitive) : p.Holds 0 := by
  cases p <;> simp [Holds]

namespace ValueType

/-! ## Conforming values -/

/-- A value has the form that its type asks for. A variant may hold any value. -/
inductive Conforms : ValueType → Value → Prop
  | boolean (b : Bool) : Conforms boolean (.boolean b)
  | integer {width : Primitive} {n : Int64} :
      width.Holds n.toInt → Conforms (integer width) (.integer n)
  | double {x : Double} : x.isFinite → Conforms double (.double x)
  | text (kind : Primitive) (s : String) : Conforms (text kind) (.text s)
  | bytes (bs : List UInt8) : Conforms bytes (.bytes bs)
  | any (inner : Value) : Conforms any (.variant inner)
  | sequence {element : ValueType} {items : List Value} :
      (∀ v ∈ items, Conforms element v) → Conforms (sequence element) (.sequence element items)
  | mapping {key value : ValueType} {entries : List (Value × Value)} :
      (∀ entry ∈ entries, Conforms key entry.1) → (∀ entry ∈ entries, Conforms value entry.2) →
        Conforms (mapping key value) (.mapping key value entries)
  | tuple {types : List ValueType} {values : List Value} :
      List.Forall₂ Conforms types values → Conforms (tuple types) (.tuple values)
  | wire (signature : String) {inner : ValueType} {value : Value} :
      Conforms inner value → Conforms (wire signature inner) (.wire signature value)

end ValueType

/-- All leaves of a value are zero or empty, and so are its containers. A variant holds the empty
text. -/
inductive Value.IsBlank : Value → Prop
  | boolean : IsBlank (boolean false)
  | integer : IsBlank (integer 0)
  | double : IsBlank (double .zero)
  | text : IsBlank (text "")
  | bytes : IsBlank (bytes [])
  | variant : IsBlank (variant (text ""))
  | sequence (element : ValueType) : IsBlank (sequence element [])
  | mapping (key value : ValueType) : IsBlank (mapping key value [])
  | tuple {members : List Value} : (∀ v ∈ members, IsBlank v) → IsBlank (tuple members)
  | wire (signature : String) {value : Value} : IsBlank value → IsBlank (wire signature value)

namespace ValueType

theorem eq_of_forall₂_isBlank {types : List ValueType} {vs vs' : List Value}
    (h : ∀ type ∈ types, ∀ {v v' : Value}, type.Conforms v → v.IsBlank → type.Conforms v' →
      v'.IsBlank → v = v')
    (hvs : List.Forall₂ Conforms types vs) (hblank : ∀ v ∈ vs, v.IsBlank)
    (hvs' : List.Forall₂ Conforms types vs') (hblank' : ∀ v ∈ vs', v.IsBlank) : vs = vs' := by
  induction hvs generalizing vs' with
  | nil =>
    cases hvs'
    rfl
  | cons hv _ ih =>
    cases hvs' with
    | cons hv' hvs' =>
      obtain ⟨htype, htypes⟩ := List.forall_mem_cons.1 h
      obtain ⟨hb, hbs⟩ := List.forall_mem_cons.1 hblank
      obtain ⟨hb', hbs'⟩ := List.forall_mem_cons.1 hblank'
      rw [htype hv hb hv' hb', ih htypes hbs hvs' hbs']

/-- A type has at most one blank value. -/
theorem Conforms.eq_of_isBlank {type : ValueType} {v v' : Value} (h : type.Conforms v)
    (hv : v.IsBlank) (h' : type.Conforms v') (hv' : v'.IsBlank) : v = v' := by
  induction type generalizing v v' with
  | boolean | integer | double | text | bytes | any | sequence | mapping =>
    cases h
    cases hv
    cases h'
    cases hv'
    rfl
  | tuple members ih =>
    cases h with
    | tuple h =>
      cases hv with
      | tuple hv =>
        cases h' with
        | tuple h' =>
          cases hv' with
          | tuple hv' => rw [eq_of_forall₂_isBlank ih h hv h' hv']
  | wire signature inner ih =>
    cases h with
    | wire _ h =>
      cases hv with
      | wire _ hv =>
        cases h' with
        | wire _ h' =>
          cases hv' with
          | wire _ hv' => rw [ih h hv h' hv']

/-! ## Defaults -/

theorem conforms_of_default {type : ValueType} {value : Value} (h : type.default = .ok value) :
    type.Conforms value ∧ value.IsBlank := by
  induction type generalizing value with
  | boolean =>
    cases h
    exact ⟨.boolean false, .boolean⟩
  | integer width =>
    cases h
    exact ⟨.integer width.holds_zero, .integer⟩
  | double =>
    cases h
    exact ⟨.double rfl, .double⟩
  | text kind =>
    cases h
    exact ⟨.text kind "", .text⟩
  | bytes =>
    cases h
    exact ⟨.bytes [], .bytes⟩
  | any =>
    cases h
    exact ⟨.any (.text ""), .variant⟩
  | sequence element =>
    cases h
    exact ⟨.sequence (List.forall_mem_nil _), .sequence element⟩
  | mapping key value =>
    cases h
    exact ⟨.mapping (List.forall_mem_nil _) (List.forall_mem_nil _), .mapping key value⟩
  | tuple members ih =>
    rw [default_tuple] at h
    obtain ⟨values, hvalues, hvalue⟩ := bind_eq_ok_iff.1 h
    cases hvalue
    refine ⟨.tuple ?_, .tuple fun v hv ↦ ?_⟩
    · have hmembers : List.Forall₂
          (fun type value ↦ type ∈ members ∧ type.default = .ok value) members values :=
        (List.forall₂_and_left _ _).2 ⟨fun _ htype ↦ htype, mapM_eq_ok_iff.1 hvalues⟩
      exact hmembers.imp fun type _ hdefault ↦ (ih type hdefault.1 hdefault.2).1
    · obtain ⟨type, htype, hdefault⟩ := exists_of_mapM_eq_ok hvalues hv
      exact (ih type htype hdefault).2
  | wire signature inner ih =>
    by_cases hbyte : inner = .integer .byte
    · subst hbyte
      cases h
    · rw [default_wire hbyte] at h
      obtain ⟨value', hvalue', hvalue⟩ := bind_eq_ok_iff.1 h
      cases hvalue
      obtain ⟨hconforms, hblank⟩ := ih hvalue'
      exact ⟨.wire signature hconforms, .wire signature hblank⟩

/-! ## Wrapped bytes -/

mutual

/-- The nodes that are reached from the root through tuples and wrappers only, from left to
right. -/
def reached : ValueType → List ValueType
  | type@(tuple members) => type :: reachedAll members
  | type@(wire _ inner) => type :: inner.reached
  | type => [type]

def reachedAll : List ValueType → List ValueType
  | [] => []
  | type :: types => type.reached ++ reachedAll types

end

theorem reachedAll_eq_flatMap (types : List ValueType) :
    reachedAll types = types.flatMap reached := by
  induction types with
  | nil => rfl
  | cons type types ih => rw [reachedAll, ih, List.flatMap_cons]

/-- The signature of a wrapper that stands right around a byte. -/
def wrappedByte? : ValueType → Option String
  | wire signature (integer .byte) => some signature
  | _ => none

theorem wrappedByte?_eq_some_iff {type : ValueType} {signature : String} :
    type.wrappedByte? = some signature ↔ type = wire signature (integer .byte) := by
  constructor
  · intro h
    unfold wrappedByte? at h
    split at h
    · rw [Option.some.inj h]
    · cases h
  · rintro rfl
    rfl

theorem wrappedByte?_wire {signature : String} {inner : ValueType} (h : inner ≠ integer .byte) :
    (wire signature inner).wrappedByte? = none := by
  rw [Option.eq_none_iff_forall_ne_some]
  intro signature' hbyte
  cases wrappedByte?_eq_some_iff.1 hbyte
  exact h rfl

/-- The signatures of the wrapped bytes among the nodes that are reached. -/
def wrappedBytes (type : ValueType) : List String :=
  type.reached.filterMap wrappedByte?

theorem wrappedBytes_tuple (members : List ValueType) :
    (tuple members).wrappedBytes = members.flatMap wrappedBytes := by
  rw [wrappedBytes, reached, reachedAll_eq_flatMap, List.filterMap_cons_none rfl,
    List.filterMap_flatMap]
  rfl

theorem wrappedBytes_wire {signature : String} {inner : ValueType} (h : inner ≠ integer .byte) :
    (wire signature inner).wrappedBytes = inner.wrappedBytes := by
  rw [wrappedBytes, reached, List.filterMap_cons_none (wrappedByte?_wire h)]
  rfl

/-- Taking the default stops at the first wrapped byte and nowhere else. -/
theorem reports_default (type : ValueType) :
    Reports type.default (type.wrappedBytes.map .noDefault) := by
  induction type with
  | boolean | integer | double | text | bytes | any | sequence | mapping => exact .ok _
  | tuple members ih =>
    rw [default_tuple, wrappedBytes_tuple, List.map_flatMap]
    exact (Reports.mapM ih).bind_return Value.tuple
  | wire signature inner ih =>
    by_cases hbyte : inner = .integer .byte
    · subst hbyte
      exact .error _ []
    · rw [default_wire hbyte, wrappedBytes_wire hbyte]
      exact ih.bind_return (Value.wire signature)

theorem default_eq_error_iff {type : ValueType} {error : Signature.Error} :
    type.default = .error error ↔
      ∃ before signature after, type.reached = before ++ wire signature (integer .byte) :: after ∧
        (∀ node ∈ before, node.wrappedByte? = none) ∧ error = .noDefault signature := by
  rw [type.reports_default error, List.head?_map, Option.map_eq_some_iff]
  simp only [wrappedBytes, List.head?_filterMap, List.findSome?_eq_some_iff,
    wrappedByte?_eq_some_iff]
  constructor
  · rintro ⟨signature, ⟨before, _, after, hreached, rfl, hbefore⟩, rfl⟩
    exact ⟨before, signature, after, hreached, hbefore, rfl⟩
  · rintro ⟨before, signature, after, hreached, hbefore, rfl⟩
    exact ⟨signature, ⟨before, _, after, hreached, rfl, hbefore⟩, rfl⟩

theorem exists_default_iff {type : ValueType} :
    (∃ value, type.default = .ok value) ↔
      ∀ signature, wire signature (integer .byte) ∉ type.reached := by
  rw [type.reports_default.exists_ok_iff, List.map_eq_nil_iff, wrappedBytes,
    List.filterMap_eq_nil_iff]
  constructor
  · intro h signature hmem
    cases h _ hmem
  · intro h node hnode
    rw [Option.eq_none_iff_forall_ne_some]
    intro signature hbyte
    exact h signature (wrappedByte?_eq_some_iff.1 hbyte ▸ hnode)

/-- Taking the default of any type whatever fails exactly if a wrapped byte is reached from the
root through tuples and wrappers, and the error then names the signature of the first one. What it
gives otherwise is the blank value of the type. -/
theorem default_blank_unless_wrapped_byte (type : ValueType) :
    ((∃ error, type.default = .error error) ↔
      ∃ signature, wire signature (integer .byte) ∈ type.reached) ∧
    (∀ error, type.default = .error error ↔
      ∃ before signature after, type.reached = before ++ wire signature (integer .byte) :: after ∧
        (∀ node ∈ before, node.wrappedByte? = none) ∧ error = .noDefault signature) ∧
    ∀ value, type.default = .ok value ↔
      (∀ signature, wire signature (integer .byte) ∉ type.reached) ∧
        type.Conforms value ∧ value.IsBlank := by
  refine ⟨?_, fun _ ↦ default_eq_error_iff, fun value ↦ ?_⟩
  · constructor
    · rintro ⟨error, herror⟩
      obtain ⟨before, signature, after, hreached, -⟩ := default_eq_error_iff.1 herror
      exact ⟨signature, hreached ▸ List.mem_append_right before List.mem_cons_self⟩
    · rintro ⟨signature, hmem⟩
      cases hdefault : type.default with
      | ok value => exact absurd hmem (exists_default_iff.1 ⟨value, hdefault⟩ signature)
      | error error => exact ⟨error, rfl⟩
  · constructor
    · intro hvalue
      exact ⟨exists_default_iff.1 ⟨value, hvalue⟩, conforms_of_default hvalue⟩
    · rintro ⟨hreached, hconforms, hblank⟩
      obtain ⟨value', hvalue'⟩ := exists_default_iff.2 hreached
      obtain ⟨hconforms', hblank'⟩ := conforms_of_default hvalue'
      rw [hvalue', hconforms'.eq_of_isBlank hblank' hconforms hblank]

/-- A byte below a sequence is passed over, and one below two wrappers is not. -/
example :
    (tuple [wire "ay" (sequence (wire "y" (integer .byte))), integer .byte,
      wire "v" (wire "y" (integer .byte))]).default = .error (.noDefault "y") := rfl

end ValueType

end Introspection
