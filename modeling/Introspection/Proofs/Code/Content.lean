import Introspection.Proofs.Code.ExprTexts
import Introspection.Proofs.Code.ShownTypes
import Introspection.Proofs.Code.Typing

/-!
# Content of expressions

The values of a type without variants all have expressions. Written for the wire, two of them have
the same text if and only if they differ in nothing but the contents of sequences and mappings, and
of texts that are no plain strings. In native mode different values have different texts.
-/

namespace Introspection

open Code

/-! ## Descriptors without variants -/

namespace Descriptor

mutual

/-- The primitives at the leaves of a descriptor, from left to right. -/
def leaves : Descriptor → List Primitive
  | primitive p => [p]
  | array element => element.leaves
  | dictionary key value => key.leaves ++ value.leaves
  | struct members => leavesAll members

def leavesAll : List Descriptor → List Primitive
  | [] => []
  | d :: ds => d.leaves ++ leavesAll ds

end

theorem leavesAll_eq_flatMap (ds : List Descriptor) : leavesAll ds = ds.flatMap leaves := by
  induction ds with
  | nil => rfl
  | cons d ds ih => rw [leavesAll, ih, List.flatMap_cons]

theorem mem_leaves_struct {p : Primitive} {d : Descriptor} {members : List Descriptor}
    (hd : d ∈ members) (h : p ∈ d.leaves) : p ∈ (struct members).leaves := by
  rw [leaves, leavesAll_eq_flatMap]
  exact List.mem_flatMap.2 ⟨d, hd, h⟩

open ValueType

theorem isShown_native {d : Descriptor} (h : .variant ∉ d.leaves) : d.native.IsShown := by
  induction d with
  | primitive p =>
    cases p with
    | boolean => exact isShown_boolean
    | double => exact isShown_double
    | string | objectPath | signature | unixFd => exact isShown_text _
    | variant => exact absurd (List.mem_singleton_self _) h
    | byte | int16 | uint16 | int32 | uint32 | int64 | uint64 => exact isShown_integer _
  | array element ih =>
    by_cases hbyte : element = primitive .byte
    · subst hbyte
      exact isShown_bytes
    · rw [native_array hbyte]
      exact isShown_sequence (ih h)
  | dictionary key value ihk ihv =>
    exact isShown_mapping (ihk (mt (List.mem_append_left _) h)) (ihv (mt (List.mem_append_right _) h))
  | struct members ih =>
    rw [native_struct]
    exact isShown_tuple (List.forall_mem_map.2 fun d hd ↦ ih d hd (mt (mem_leaves_struct hd) h))

theorem isShown_wired {d : Descriptor} (h : .variant ∉ d.leaves) : d.wired.IsShown := by
  induction d with
  | primitive p =>
    cases p with
    | boolean =>
      refine isShown_wire isShown_boolean fun v hv ↦ ?_
      cases hv
      exact ⟨rfl, rfl⟩
    | double =>
      refine isShown_wire isShown_double fun v hv ↦ ?_
      cases hv
      exact ⟨rfl, rfl⟩
    | string | objectPath | signature | unixFd => exact isShown_wire_text _
    | variant => exact absurd (List.mem_singleton_self _) h
    | byte | int16 | uint16 | int32 | uint32 | int64 | uint64 => exact isShown_wire_integer rfl
  | array element ih =>
    by_cases hbyte : element = primitive .byte
    · subst hbyte
      refine isShown_wire isShown_bytes fun v hv ↦ ?_
      cases hv
      exact ⟨rfl, rfl⟩
    · rw [wired_array hbyte]
      exact isShown_wire_sequence (elementSignature?_text_array element) _
  | dictionary key value => exact isShown_wire_mapping _ _
  | struct members ih =>
    rw [wired_struct]
    exact isShown_wire_tuple
      (List.forall_mem_map.2 fun d hd ↦ ih d hd (mt (mem_leaves_struct hd) h))

/-- Native values without variants have nothing that is not shown. -/
theorem shown_eq_self {d : Descriptor} {v : Value} (h : .variant ∉ d.leaves)
    (hv : d.native.Conforms v) : v.shown = v := by
  induction d generalizing v with
  | primitive p =>
    cases p with
    | variant => exact absurd (List.mem_singleton_self _) h
    | _ =>
      cases hv
      rfl
  | array element ih =>
    by_cases hbyte : element = primitive .byte
    · subst hbyte
      cases hv
      rfl
    · rw [native_array hbyte] at hv
      cases hv with
      | sequence hitems =>
        rw [Value.shown_sequence, map_eq_self fun v hv ↦ ih h (hitems v hv)]
  | dictionary key value ihk ihv =>
    have hkey : .variant ∉ key.leaves := mt (List.mem_append_left _) h
    have hvalue : .variant ∉ value.leaves := mt (List.mem_append_right _) h
    cases hv with
    | mapping hkeys hvalues =>
      rw [Value.shown_mapping, map_eq_self fun entry hentry ↦
        Prod.ext (ihk hkey (hkeys entry hentry)) (ihv hvalue (hvalues entry hentry))]
  | struct members ih =>
    rw [native_struct] at hv
    cases hv with
    | @tuple _ values hvalues =>
      rw [List.forall₂_map_left_iff] at hvalues
      have hself : ∀ v ∈ values, v.shown = v := by
        intro v hv
        obtain ⟨d, hd, hconforms⟩ := exists_of_mem_right hvalues hv
        exact ih d hd (mt (mem_leaves_struct hd) h) hconforms
      rw [Value.shown_tuple, map_eq_self hself]

theorem isShown_of_resolve {d : Descriptor} {mode : Mode} {type : ValueType}
    (h : .variant ∉ d.leaves) (htype : d.resolve mode = .ok type) : type.IsShown := by
  cases mode with
  | native =>
    cases htype
    exact isShown_native h
  | wire =>
    obtain ⟨-, rfl⟩ := resolve_wire_eq_ok_iff.1 htype
    exact isShown_wired h

/-- Every value of a type without variants has an expression, and two of them have expressions of
the same text exactly if they agree in all that is shown of them. In native mode that is all. -/
theorem text_expr_eq_iff_shown_eq {d : Descriptor} {mode : Mode} {type : ValueType} {v v' : Value}
    (hvariant : .variant ∉ d.leaves) (htype : d.resolve mode = .ok type) (hv : type.Conforms v)
    (hv' : type.Conforms v') :
    ∃ e e', v.expr = .ok e ∧ v'.expr = .ok e' ∧ (e.text = e'.text ↔ v.shown = v'.shown) ∧
      (mode = .native → v.shown = v ∧ v'.shown = v') := by
  have hshown := isShown_of_resolve hvariant htype
  obtain ⟨e, he⟩ := hshown.exists_expr hv
  obtain ⟨e', he'⟩ := hshown.exists_expr hv'
  refine ⟨e, e', he, he', ?_, ?_⟩
  · rw [Expr.text_injective.eq_iff]
    constructor
    · rintro rfl
      exact hshown.shown_eq hv hv' he he'
    · intro heq
      rw [← v.expr_shown, heq, v'.expr_shown, he'] at he
      exact (Except.ok.inj he).symm
  · rintro rfl
    cases htype
    exact ⟨shown_eq_self hvariant hv, shown_eq_self hvariant hv'⟩

/-- A name along with some counts. -/
def tallied : Descriptor :=
  struct [primitive .string, array (primitive .int32)]

def tally (name : String) (counts : List Int64) : Value :=
  .wire "(sai)" (.tuple [.wire "s" (.text name),
    .wire "ai" (.sequence (.wire "i" (.integer .int32)) (counts.map (.wire "i" <| .integer ·)))])

theorem conforms_tally (name : String) {counts : List Int64}
    (h : ∀ n ∈ counts, Primitive.int32.Holds n.toInt) :
    tallied.wired.Conforms (tally name counts) :=
  .wire _ (.tuple (.cons (.wire _ (.text _ name)) (.cons (.wire _ (.sequence
    (List.forall_mem_map.2 fun n hn ↦ .wire _ (.integer (h n hn))))) .nil)))

theorem text_expr_eq_iff_shown_eq_tally :
    .variant ∉ tallied.leaves ∧ tallied.resolve .wire = .ok tallied.wired ∧
      tallied.wired.Conforms (tally "water" []) ∧ tallied.wired.Conforms (tally "water" [3]) ∧
      tallied.wired.Conforms (tally "oil" []) ∧
      ∃ e e' e'', (tally "water" []).expr = .ok e ∧ (tally "water" [3]).expr = .ok e' ∧
        (tally "oil" []).expr = .ok e'' ∧ e.text = e'.text ∧ e.text ≠ e''.text := by
  have hvariant : .variant ∉ tallied.leaves := by decide
  have htype : tallied.resolve .wire = .ok tallied.wired := rfl
  have hwater := conforms_tally "water" (List.forall_mem_nil _)
  have hcounted := conforms_tally "water" (List.forall_mem_singleton.2
    (⟨by decide, by decide⟩ : Primitive.int32.Holds (3 : Int64).toInt))
  have hoil := conforms_tally "oil" (List.forall_mem_nil _)
  obtain ⟨e, e', he, he', heq, -⟩ := text_expr_eq_iff_shown_eq hvariant htype hwater hcounted
  obtain ⟨e₁, e'', he₁, he'', hne, -⟩ := text_expr_eq_iff_shown_eq hvariant htype hwater hoil
  cases he.symm.trans he₁
  refine ⟨hvariant, htype, hwater, hcounted, hoil, e, e', e'', he, he', he'', heq.2 rfl, ?_⟩
  intro htext
  have hmembers := Value.tuple.inj (Value.wire.inj (hne.1 htext)).2
  have hname : "water" = "oil" := Value.text.inj (Value.wire.inj (List.cons.inj hmembers).1).2
  exact absurd hname (by decide)

/-- The items of an array on the wire make no difference to the text of its expression. -/
theorem array_items_not_shown :
    ∃ (type : ValueType) (v v' : Value), .variant ∉ (array (primitive .int32)).leaves ∧
      (array (primitive .int32)).resolve .wire = .ok type ∧
      v = .wire "ai" (.sequence (.wire "i" (.integer .int32)) []) ∧
      v' = .wire "ai" (.sequence (.wire "i" (.integer .int32)) [.wire "i" (.integer 1)]) ∧
      type.Conforms v ∧ type.Conforms v' ∧ v ≠ v' ∧
      ∃ e e', v.expr = .ok e ∧ v'.expr = .ok e' ∧ e.text = e'.text := by
  refine ⟨_, _, _, by decide, rfl, rfl, rfl, .wire _ (.sequence (List.forall_mem_nil _)),
    .wire _ (.sequence (List.forall_mem_singleton.2 (.wire _ (.integer ⟨by decide, by decide⟩)))),
    ?_, _, _, rfl, rfl, rfl⟩
  intro h
  cases (Value.sequence.inj (Value.wire.inj h).2).2

end Descriptor

end Introspection
