import Introspection.Proofs.Code.Shown
import Introspection.Proofs.Value.Conformance

/-!
# Types of which everything is shown

If all values of a type have expressions, and those of two values differ unless the values agree in
all that is shown of them, the same goes for the sequences, mappings and tuples of such types. On
the wire it goes for sequences and mappings of anything, since nothing of their contents is shown.
-/

namespace Introspection

open Code

/-! ## Bytes and numbers -/

namespace Code

theorem byteVec_injective : Function.Injective byteVec := by
  intro bs bs' h
  unfold byteVec at h
  cases bs with
  | nil =>
    cases bs' with
    | nil => rfl
    | cons b' bs' => cases h
  | cons b bs =>
    cases bs' with
    | nil => cases h
    | cons b' bs' =>
      have hinj : Function.Injective fun b : UInt8 ↦ Expr.int b.toNat (some .u8) := by
        intro b b' hb
        have hnat : (b.toNat : Int) = b'.toNat := (Expr.int.inj hb).1
        exact UInt8.toNat_inj.1 (by omega)
      exact List.map_injective_iff.2 hinj (Expr.vec.inj h)

theorem toNat_toUInt64 {n : Int64} (h : 0 ≤ n.toInt) : (n.toUInt64.toNat : Int) = n.toInt := by
  rw [← Int64.toNat_toBitVec]
  rw [← Int64.toInt_toBitVec, BitVec.toInt_eq_toNat_cond] at h ⊢
  split at h
  · next hlt => rw [if_pos hlt]
  · omega

/-- A number that its type has room for is written on the wire as it is. -/
theorem wireInt_of_holds {p : Primitive} {type : IntType} {n : Int64}
    (htype : p.typeName = .int type) (h : p.Holds n.toInt) :
    wireInt (Descriptor.primitive p).text n = .int n.toInt (some type) := by
  cases p with
  | byte =>
    cases htype
    have hn : (n.toUInt64.toUInt8.toNat : Int) = n.toInt := by
      have hnat := toNat_toUInt64 h.1
      have hlt := h.2
      rw [UInt64.toNat_toUInt8]
      omega
    exact congrArg (Expr.int · (some .u8)) hn
  | int16 =>
    cases htype
    have hn : n.toInt16.toInt = n.toInt := by
      rw [Int64.toInt_toInt16]
      exact Int.bmod_eq_of_le h.1 h.2
    exact congrArg (Expr.int · (some .i16)) hn
  | uint16 =>
    cases htype
    have hn : (n.toUInt64.toUInt16.toNat : Int) = n.toInt := by
      have hnat := toNat_toUInt64 h.1
      have hlt := h.2
      rw [UInt64.toNat_toUInt16]
      omega
    exact congrArg (Expr.int · (some .u16)) hn
  | int32 =>
    cases htype
    have hn : n.toInt32.toInt = n.toInt := by
      rw [Int64.toInt_toInt32]
      exact Int.bmod_eq_of_le h.1 h.2
    exact congrArg (Expr.int · (some .i32)) hn
  | uint32 =>
    cases htype
    have hn : (n.toUInt64.toUInt32.toNat : Int) = n.toInt := by
      have hnat := toNat_toUInt64 h.1
      have hlt := h.2
      rw [UInt64.toNat_toUInt32]
      omega
    exact congrArg (Expr.int · (some .u32)) hn
  | int64 =>
    cases htype
    rfl
  | uint64 =>
    cases htype
    exact congrArg (Expr.int · (some .u64)) (toNat_toUInt64 h.1)
  | boolean | double | string | objectPath | signature | unixFd | variant => cases htype

end Code

/-! ## Types -/

namespace ValueType

/-- The conforming values are all written out, and expressions show them up to what is emptied. -/
structure IsShown (type : ValueType) : Prop where
  exists_expr : ∀ {v : Value}, type.Conforms v → ∃ e, v.expr = .ok e
  shown_eq : ∀ {v v' : Value} {e : Expr}, type.Conforms v → type.Conforms v' → v.expr = .ok e →
    v'.expr = .ok e → v.shown = v'.shown

theorem isShown_boolean : boolean.IsShown := by
  constructor
  · rintro _ ⟨b⟩
    exact ⟨_, rfl⟩
  · rintro _ _ e ⟨b⟩ ⟨b'⟩ he he'
    cases he
    cases he'
    rfl

theorem isShown_integer (width : Primitive) : (integer width).IsShown := by
  constructor
  · intro v hv
    cases hv
    exact ⟨_, rfl⟩
  · intro v v' e hv hv' he he'
    cases hv
    cases hv'
    have hn := Except.ok.inj (he.trans he'.symm)
    rw [Int64.toInt_inj.1 (Expr.int.inj hn).1]

theorem isShown_double : double.IsShown := by
  constructor
  · intro v hv
    cases hv with
    | double hx => exact ⟨_, if_pos hx⟩
  · intro v v' e hv hv' he he'
    cases hv with
    | double hx =>
      cases hv' with
      | double hx' =>
        rw [Value.expr, if_pos hx] at he
        rw [Value.expr, if_pos hx'] at he'
        cases he
        cases he'
        rfl

theorem isShown_text (kind : Primitive) : (text kind).IsShown := by
  constructor
  · rintro _ ⟨_, s⟩
    exact ⟨_, rfl⟩
  · rintro _ _ e ⟨_, s⟩ ⟨_, s'⟩ he he'
    cases he
    cases he'
    rfl

theorem isShown_bytes : bytes.IsShown := by
  constructor
  · rintro _ ⟨bs⟩
    exact ⟨_, rfl⟩
  · rintro _ _ e ⟨bs⟩ ⟨bs'⟩ he he'
    rw [byteVec_injective (Except.ok.inj (he.trans he'.symm))]

theorem isShown_sequence {element : ValueType} (h : element.IsShown) :
    (sequence element).IsShown := by
  constructor
  · intro v hv
    cases hv with
    | @sequence _ items hitems =>
      by_cases hnil : items = []
      · subst hnil
        exact ⟨_, rfl⟩
      · obtain ⟨es, hes⟩ := exists_mapM_eq_ok fun v hv ↦ h.exists_expr (hitems v hv)
        exact ⟨_, Value.expr_sequence_eq_ok_iff.2 (.inr ⟨es, hnil, hes, rfl⟩)⟩
  · intro v v' e hv hv' he he'
    cases hv with
    | @sequence _ items hitems =>
      cases hv' with
      | @sequence _ items' hitems' =>
        obtain ⟨es, hes, hes'⟩ := Value.exists_mapM_of_expr_sequence he he'
        rw [Value.shown_sequence, Value.shown_sequence,
          map_eq_of_mapM_eq_ok hes hes' fun v hv v' hv' _ ↦
            h.shown_eq (hitems v hv) (hitems' v' hv')]

theorem isShown_mapping {key value : ValueType} (hkey : key.IsShown) (hvalue : value.IsShown) :
    (mapping key value).IsShown := by
  constructor
  · intro v hv
    cases hv with
    | @mapping _ _ entries hkeys hvalues =>
      by_cases hnil : entries = []
      · subst hnil
        exact ⟨_, rfl⟩
      · have hentry : ∀ entry ∈ entries, ∃ es, Value.entryExpr entry = .ok es := by
          intro entry hentry
          obtain ⟨k, hk⟩ := hkey.exists_expr (hkeys entry hentry)
          obtain ⟨v, hv⟩ := hvalue.exists_expr (hvalues entry hentry)
          exact ⟨(k, v), Value.entryExpr_eq_ok_iff.2 ⟨hk, hv⟩⟩
        obtain ⟨es, hes⟩ := exists_mapM_eq_ok hentry
        exact ⟨_, Value.expr_mapping_eq_ok_iff.2 (.inr ⟨es, hnil, hes, rfl⟩)⟩
  · intro v v' e hv hv' he he'
    cases hv with
    | @mapping _ _ entries hkeys hvalues =>
      cases hv' with
      | @mapping _ _ entries' hkeys' hvalues' =>
        obtain ⟨es, hes, hes'⟩ := Value.exists_mapM_of_expr_mapping he he'
        rw [Value.shown_mapping, Value.shown_mapping,
          map_eq_of_mapM_eq_ok hes hes' fun entry hentry entry' hentry' _ hk hk' ↦ ?_]
        obtain ⟨hk, hv⟩ := Value.entryExpr_eq_ok_iff.1 hk
        obtain ⟨hk', hv'⟩ := Value.entryExpr_eq_ok_iff.1 hk'
        rw [hkey.shown_eq (hkeys entry hentry) (hkeys' entry' hentry') hk hk',
          hvalue.shown_eq (hvalues entry hentry) (hvalues' entry' hentry') hv hv']

/-- All members of a tuple are written out if they conform to their types. -/
theorem exists_exprs {types : List ValueType} {values : List Value}
    (h : ∀ type ∈ types, type.IsShown) (hvalues : List.Forall₂ Conforms types values) :
    ∃ es, values.mapM Value.expr = .ok es := by
  refine exists_mapM_eq_ok fun v hv ↦ ?_
  obtain ⟨type, htype, hconforms⟩ := exists_of_mem_right hvalues hv
  exact (h type htype).exists_expr hconforms

/-- The expressions of the members determine what is shown of them. -/
theorem map_shown_eq {types : List ValueType} {values values' : List Value} {es : List Expr}
    (h : ∀ type ∈ types, type.IsShown) (hvalues : List.Forall₂ Conforms types values)
    (hvalues' : List.Forall₂ Conforms types values') (hes : values.mapM Value.expr = .ok es)
    (hes' : values'.mapM Value.expr = .ok es) :
    values.map Value.shown = values'.map Value.shown := by
  rw [mapM_eq_ok_iff] at hes hes'
  induction hvalues generalizing values' es with
  | nil =>
    cases hvalues'
    rfl
  | cons hv _ ih =>
    obtain ⟨htype, htypes⟩ := List.forall_mem_cons.1 h
    cases hvalues' with
    | cons hv' hvalues' =>
      cases hes with
      | cons he hes =>
        cases hes' with
        | cons he' hes' =>
          rw [List.map_cons, List.map_cons, htype.shown_eq hv hv' he he',
            ih htypes hvalues' hes hes']

theorem isShown_tuple {types : List ValueType} (h : ∀ type ∈ types, type.IsShown) :
    (tuple types).IsShown := by
  constructor
  · intro v hv
    cases hv with
    | tuple hvalues =>
      obtain ⟨es, hes⟩ := exists_exprs h hvalues
      exact ⟨_, Value.expr_tuple_eq_ok_iff.2 ⟨es, hes, rfl⟩⟩
  · intro v v' e hv hv' he he'
    cases hv with
    | tuple hvalues =>
      cases hv' with
      | tuple hvalues' =>
        obtain ⟨es, hes, rfl⟩ := Value.expr_tuple_eq_ok_iff.1 he
        obtain ⟨es', hes', heq⟩ := Value.expr_tuple_eq_ok_iff.1 he'
        cases heq
        rw [Value.shown_tuple, Value.shown_tuple, map_shown_eq h hvalues hvalues' hes hes']

/-! ## Types on the wire -/

variable {signature : String}

theorem isShown_wire_iff {inner : ValueType} :
    (wire signature inner).IsShown ↔
      (∀ {v : Value}, inner.Conforms v → ∃ e, (Value.wire signature v).expr = .ok e) ∧
      ∀ {v v' : Value} {e : Expr}, inner.Conforms v → inner.Conforms v' →
        (Value.wire signature v).expr = .ok e → (Value.wire signature v').expr = .ok e →
          (Value.wire signature v).shown = (Value.wire signature v').shown := by
  constructor
  · intro h
    exact ⟨fun hv ↦ h.exists_expr (.wire signature hv),
      fun hv hv' ↦ h.shown_eq (.wire signature hv) (.wire signature hv')⟩
  · rintro ⟨hexists, hshown⟩
    constructor
    · intro v hv
      cases hv with
      | wire _ hv => exact hexists hv
    · intro v v' e hv hv'
      cases hv with
      | wire _ hv =>
        cases hv' with
        | wire _ hv' => exact hshown hv hv'

/-- What is written on the wire as it is written anywhere is shown there as well. -/
theorem isShown_wire {inner : ValueType} (h : inner.IsShown)
    (hwire : ∀ v, inner.Conforms v → (Value.wire signature v).expr = v.expr ∧
      (Value.wire signature v).shown = .wire signature v.shown) :
    (wire signature inner).IsShown := by
  refine isShown_wire_iff.2 ⟨fun {v} hv ↦ ?_, fun {v v' e} hv hv' he he' ↦ ?_⟩
  · rw [(hwire v hv).1]
    exact h.exists_expr hv
  · obtain ⟨hexpr, hshown⟩ := hwire v hv
    obtain ⟨hexpr', hshown'⟩ := hwire v' hv'
    rw [hshown, hshown', h.shown_eq hv hv' (hexpr.symm.trans he) (hexpr'.symm.trans he')]

theorem isShown_wire_integer {p : Primitive} {type : IntType} (htype : p.typeName = .int type) :
    (wire (Descriptor.primitive p).text (integer p)).IsShown := by
  refine isShown_wire_iff.2 ⟨fun {v} hv ↦ ?_, fun {v v' e} hv hv' he he' ↦ ?_⟩
  · cases hv
    exact ⟨_, rfl⟩
  · cases hv with
    | integer hn =>
      cases hv' with
      | integer hn' =>
        rw [Value.expr, wireInt_of_holds htype hn] at he
        rw [Value.expr, wireInt_of_holds htype hn'] at he'
        have hint := Except.ok.inj (he.trans he'.symm)
        rw [Int64.toInt_inj.1 (Expr.int.inj hint).1]

theorem isShown_wire_text (kind : Primitive) : (wire signature (text kind)).IsShown := by
  refine isShown_wire_iff.2 ⟨fun {v} hv ↦ ?_, fun {v v' e} hv hv' he he' ↦ ?_⟩
  · cases hv
    exact ⟨_, rfl⟩
  · cases hv with
    | text _ s =>
      cases hv' with
      | text _ s' =>
        have htext : wireText signature s = wireText signature s' :=
          Except.ok.inj (he.trans he'.symm)
        rw [Value.shown, Value.shown]
        by_cases h : signature = "s"
        · rw [wireText, wireText, if_pos h, if_pos h] at htext
          rw [Expr.string.inj htext]
        · rw [if_neg h, if_neg h]

theorem isShown_wire_sequence {rest : String} (h : elementSignature? signature = some rest)
    (element : ValueType) : (wire signature (sequence element)).IsShown := by
  refine isShown_wire_iff.2 ⟨fun {v} hv ↦ ?_, fun {v v' e} hv hv' _ _ ↦ ?_⟩
  · cases hv
    rw [Value.expr, h]
    exact ⟨_, rfl⟩
  · cases hv
    cases hv'
    rfl

theorem isShown_wire_mapping (key value : ValueType) :
    (wire signature (mapping key value)).IsShown := by
  refine isShown_wire_iff.2 ⟨fun {v} hv ↦ ?_, fun {v v' e} hv hv' _ _ ↦ ?_⟩
  · cases hv
    exact ⟨_, rfl⟩
  · cases hv
    cases hv'
    rfl

theorem isShown_wire_tuple {types : List ValueType} (h : ∀ type ∈ types, type.IsShown) :
    (wire signature (tuple types)).IsShown := by
  refine isShown_wire_iff.2 ⟨fun {v} hv ↦ ?_, fun {v v' e} hv hv' he he' ↦ ?_⟩
  · cases hv with
    | tuple hvalues =>
      obtain ⟨es, hes⟩ := exists_exprs h hvalues
      exact ⟨_, Value.expr_wire_tuple_eq_ok_iff.2 ⟨es, hes, rfl⟩⟩
  · cases hv with
    | tuple hvalues =>
      cases hv' with
      | tuple hvalues' =>
        obtain ⟨es, hes, rfl⟩ := Value.expr_wire_tuple_eq_ok_iff.1 he
        obtain ⟨es', hes', heq⟩ := Value.expr_wire_tuple_eq_ok_iff.1 he'
        cases heq
        rw [Value.shown_wire_tuple, Value.shown_wire_tuple,
          map_shown_eq h hvalues hvalues' hes hes']

end ValueType

end Introspection
