import Introspection.Code.Expr
import Introspection.Proofs.Resolution.Erasure

/-!
# Types of expressions

The typing rules are those of the standard library and of the wire library. The expression of a
default value has the type that is declared for the value. A number without a suffix fits every
integer type, and nothing else is left open: on the wire, where every number has a suffix, the
declared type is the only one.
-/

namespace Introspection

namespace Code

/-! ## Typing rules -/

namespace Expr

/-- The type of an expression that shows its type without a look at its parts. -/
def ownType? : Expr → Option TypeExpr
  | bool _ => some (.name .bool)
  | int _ (some type) => some (.name (.int type))
  | float _ => some (.name .float)
  | string _ => some (.name .string)
  | emptyVec element => some (.vec element)
  | emptyMap key value => some (.hashMap key value)
  | default type => some (.name type)
  | array _ => some (.name .array)
  | dict _ _ => some (.name .dict)
  | _ => none

inductive HasType : Expr → TypeExpr → Prop
  | own {e : Expr} {t : TypeExpr} : e.ownType? = some t → HasType e t
  /-- A number without a suffix takes whatever integer type is asked for. -/
  | number (n : Int) (type : IntType) : HasType (.int n none) (.name (.int type))
  | vec {items : List Expr} {element : TypeExpr} :
      (∀ e ∈ items, HasType e element) → HasType (.vec items) (.vec element)
  | map {key value : TypeExpr} {entries : List (Expr × Expr)} :
      (∀ entry ∈ entries, HasType entry.1 key) → (∀ entry ∈ entries, HasType entry.2 value) →
        HasType (.map key value entries) (.hashMap key value)
  | tuple {members : List Expr} {types : List TypeExpr} :
      List.Forall₂ HasType members types → HasType (.tuple members) (.tuple types)
  | ownedValue {inner : Expr} {t : TypeExpr} :
      HasType inner t → HasType (.ownedValue inner) (.name .ownedValue)
  /-- The type of a struct does not tell the types of its fields. -/
  | struct {fields : List Expr} {types : List TypeExpr} :
      List.Forall₂ HasType fields types → HasType (.struct fields) (.name .struct)

theorem hasType_iff_of_ownType? {e : Expr} {t u : TypeExpr} (h : e.ownType? = some u) :
    e.HasType t ↔ t = u := by
  constructor
  · intro ht
    cases ht with
    | own ht => exact Option.some.inj (ht.symm.trans h)
    | _ => cases h
  · rintro rfl
    exact .own h

theorem hasType_number_iff {n : Int} {t : TypeExpr} :
    (int n none).HasType t ↔ ∃ type, t = .name (.int type) := by
  constructor
  · intro ht
    cases ht with
    | own ht => cases ht
    | number _ type => exact ⟨type, rfl⟩
  · rintro ⟨type, rfl⟩
    exact .number n type

theorem hasType_ownedValue_iff {inner : Expr} {t : TypeExpr} :
    (ownedValue inner).HasType t ↔ t = .name .ownedValue ∧ ∃ u, inner.HasType u := by
  constructor
  · intro ht
    cases ht with
    | own ht => cases ht
    | ownedValue hinner => exact ⟨rfl, _, hinner⟩
  · rintro ⟨rfl, u, hinner⟩
    exact .ownedValue hinner

theorem hasType_ownedValue_string_iff {s : String} {t : TypeExpr} :
    (ownedValue (string s)).HasType t ↔ t = .name .ownedValue :=
  hasType_ownedValue_iff.trans (and_iff_left ⟨.name .string, .own rfl⟩)

theorem hasType_tuple_iff {members : List Expr} {t : TypeExpr} :
    (tuple members).HasType t ↔ ∃ types, t = .tuple types ∧ List.Forall₂ HasType members types := by
  constructor
  · intro ht
    cases ht with
    | own ht => cases ht
    | tuple hmembers => exact ⟨_, rfl, hmembers⟩
  · rintro ⟨types, rfl, hmembers⟩
    exact .tuple hmembers

theorem hasType_struct_iff {fields : List Expr} {t : TypeExpr} :
    (struct fields).HasType t ↔ t = .name .struct ∧ ∃ types, List.Forall₂ HasType fields types := by
  constructor
  · intro ht
    cases ht with
    | own ht => cases ht
    | struct hfields => exact ⟨rfl, _, hfields⟩
  · rintro ⟨rfl, types, hfields⟩
    exact .struct hfields

end Expr

/-! ## Types up to the width of numbers -/

namespace TypeExpr

/-- The types are equal except for integer types that stand alone or in tuples. -/
inductive Alike : TypeExpr → TypeExpr → Prop
  | refl (t : TypeExpr) : Alike t t
  | int (a b : IntType) : Alike (.name (.int a)) (.name (.int b))
  | tuple {ts us : List TypeExpr} : List.Forall₂ Alike ts us → Alike (.tuple ts) (.tuple us)

theorem alike_int_iff {t : TypeExpr} {type : IntType} :
    t.Alike (.name (.int type)) ↔ ∃ type', t = .name (.int type') := by
  constructor
  · rintro (_ | ⟨type', _⟩)
    · exact ⟨type, rfl⟩
    · exact ⟨type', rfl⟩
  · rintro ⟨type', rfl⟩
    exact .int type' type

theorem alike_tuple_iff {t : TypeExpr} {us : List TypeExpr} :
    t.Alike (.tuple us) ↔ ∃ ts, t = .tuple ts ∧ List.Forall₂ Alike ts us := by
  constructor
  · intro h
    cases h with
    | refl => exact ⟨us, rfl, List.forall₂_same.2 fun u _ ↦ .refl u⟩
    | tuple h => exact ⟨_, rfl, h⟩
  · rintro ⟨ts, rfl, h⟩
    exact .tuple h

theorem alike_iff_eq {t u : TypeExpr} (hint : ∀ type, u ≠ .name (.int type))
    (htuple : ∀ us, u ≠ .tuple us) : t.Alike u ↔ t = u := by
  constructor
  · intro h
    cases h with
    | refl => rfl
    | int _ type => exact absurd rfl (hint type)
    | tuple => exact absurd rfl (htuple _)
  · rintro rfl
    exact .refl t

end TypeExpr

end Code

/-! ## Expressions of defaults -/

open Code

/-- The default of a type has an expression, and the types of this expression are known. -/
def ValueType.DefaultHasTypes (type : ValueType) (types : TypeExpr → Prop) : Prop :=
  ∃ value, type.default = .ok value ∧ ∃ e, value.expr = .ok e ∧ ∀ t, e.HasType t ↔ types t

/-- The default of a tuple is written member by member. -/
theorem exists_exprs_of_defaults {α : Type} {type : α → ValueType} {P : α → Expr → Prop}
    {as : List α}
    (h : ∀ a ∈ as, ∃ value, (type a).default = .ok value ∧ ∃ e, value.expr = .ok e ∧ P a e) :
    ∃ values, (ValueType.tuple (as.map type)).default = .ok (.tuple values) ∧
      ∃ es, Value.exprs values = .ok es ∧ List.Forall₂ P as es := by
  obtain ⟨values, hvalues, hexprs⟩ := exists_mapM_eq_ok_of_forall₂ (List.forall₂_same.2 h)
  obtain ⟨es, hes, has⟩ := exists_mapM_eq_ok_of_forall₂ hexprs
  refine ⟨values, ?_, es, ?_, has⟩
  · rw [ValueType.default_tuple, List.mapM_map]
    exact bind_eq_ok_iff.2 ⟨values, hvalues, rfl⟩
  · rw [Value.exprs_eq_mapM, hes]

theorem forall₂_hasType_iff {α : Type} {f : α → TypeExpr} {as : List α} {es : List Expr}
    {ts : List TypeExpr}
    (h : List.Forall₂ (fun a e ↦ ∀ t, e.HasType t ↔ t.Alike (f a)) as es) :
    List.Forall₂ Expr.HasType es ts ↔ List.Forall₂ TypeExpr.Alike ts (as.map f) := by
  induction h generalizing ts with
  | nil => simp
  | cons hae _ ih =>
    cases ts with
    | nil => simp
    | cons t ts => rw [List.map_cons, List.forall₂_cons, List.forall₂_cons, hae t, ih]

namespace Descriptor

theorem native_defaultHasTypes (d : Descriptor) :
    d.native.DefaultHasTypes fun t ↦ t.Alike d.native.typeExpr := by
  have hown {e : Expr} {u : TypeExpr} (h : e.ownType? = some u)
      (hint : ∀ type, u ≠ .name (.int type)) (htuple : ∀ us, u ≠ .tuple us) (t : TypeExpr) :
      e.HasType t ↔ t.Alike u :=
    (Expr.hasType_iff_of_ownType? h).trans (TypeExpr.alike_iff_eq hint htuple).symm
  induction d with
  | primitive p =>
    cases p with
    | boolean => exact ⟨_, rfl, _, rfl, hown rfl nofun nofun⟩
    | double => exact ⟨_, rfl, _, rfl, hown rfl nofun nofun⟩
    | string | objectPath | signature | unixFd => exact ⟨_, rfl, _, rfl, hown rfl nofun nofun⟩
    | variant =>
      have hany (t : TypeExpr) : t.Alike (.name .ownedValue) ↔ t = .name .ownedValue :=
        TypeExpr.alike_iff_eq nofun nofun
      exact ⟨_, rfl, _, rfl, fun t ↦ Expr.hasType_ownedValue_string_iff.trans (hany t).symm⟩
    | _ =>
      exact ⟨_, rfl, _, rfl, fun t ↦ Expr.hasType_number_iff.trans TypeExpr.alike_int_iff.symm⟩
  | array element =>
    by_cases h : element = primitive .byte
    · subst h
      exact ⟨_, rfl, _, rfl, hown rfl nofun nofun⟩
    · rw [native_array h]
      exact ⟨_, rfl, _, rfl, hown rfl nofun nofun⟩
  | dictionary key value => exact ⟨_, rfl, _, rfl, hown rfl nofun nofun⟩
  | struct members ih =>
    obtain ⟨values, hvalues, es, hes, htypes⟩ := exists_exprs_of_defaults ih
    rw [native_struct]
    refine ⟨_, hvalues, .tuple es, ?_, fun t ↦ ?_⟩
    · rw [Value.expr, hes]
      rfl
    · have hmembers : (ValueType.tuple (members.map native)).typeExpr =
          .tuple (members.map fun d ↦ d.native.typeExpr) := by
        rw [ValueType.typeExpr_tuple, List.map_map]
        rfl
      rw [hmembers]
      calc (Expr.tuple es).HasType t
          ↔ ∃ ts, t = .tuple ts ∧ List.Forall₂ Expr.HasType es ts := Expr.hasType_tuple_iff
        _ ↔ ∃ ts, t = .tuple ts ∧
              List.Forall₂ TypeExpr.Alike ts (members.map fun d ↦ d.native.typeExpr) :=
          exists_congr fun ts ↦ and_congr_right' (forall₂_hasType_iff htypes)
        _ ↔ t.Alike (.tuple (members.map fun d ↦ d.native.typeExpr)) :=
          TypeExpr.alike_tuple_iff.symm

/-- The text of an array starts with a one-byte code, which its elements follow. -/
theorem elementSignature?_text_array (element : Descriptor) :
    elementSignature? (array element).text = some element.text := by
  have hcodes : (array element).text.toList = 'a' :: element.codes := by
    rw [toList_text, codes]
  rw [elementSignature?, hcodes]
  rfl

theorem wired_defaultHasTypes {d : Descriptor} (h : ¬ d.HasLooseByte) :
    d.wired.DefaultHasTypes (· = d.wired.typeExpr) := by
  induction d with
  | primitive p =>
    have hbyte : p ≠ .byte := by simpa using h
    cases p with
    | byte => exact absurd rfl hbyte
    | variant => exact ⟨_, rfl, _, rfl, fun t ↦ Expr.hasType_ownedValue_string_iff⟩
    | _ => exact ⟨_, rfl, _, rfl, fun t ↦ Expr.hasType_iff_of_ownType? rfl⟩
  | array element =>
    by_cases hbyte : element = primitive .byte
    · subst hbyte
      exact ⟨_, rfl, _, rfl, fun t ↦ Expr.hasType_iff_of_ownType? rfl⟩
    · rw [wired_array hbyte]
      refine ⟨_, rfl, .array (element.wired.signature?.getD element.text), ?_,
        fun t ↦ Expr.hasType_iff_of_ownType? rfl⟩
      rw [Value.expr, elementSignature?_text_array]
  | dictionary key value => exact ⟨_, rfl, _, rfl, fun t ↦ Expr.hasType_iff_of_ownType? rfl⟩
  | struct members ih =>
    obtain ⟨values, hvalues, es, hes, htypes⟩ :=
      exists_exprs_of_defaults fun d hd ↦ ih d hd fun hloose ↦ h (.member hd hloose)
    have hfields : List.Forall₂ Expr.HasType es (members.map fun d ↦ d.wired.typeExpr) := by
      rw [List.forall₂_map_right_iff]
      exact (htypes.imp fun d e hde ↦ (hde _).2 rfl).flip
    refine ⟨.wire (struct members).text (.tuple values), ?_, .struct es, ?_, fun t ↦ ?_⟩
    · rw [wired_struct, ValueType.default_wire_tuple, hvalues]
      rfl
    · rw [Value.expr, hes]
      rfl
    · exact Expr.hasType_struct_iff.trans (and_iff_left ⟨_, hfields⟩)

/-- The default of a type that a descriptor resolves to is written as an expression of the type
that is declared for it. Any other type of the expression differs from this one in the width of
numbers that are written without a suffix, and on the wire there is no other. -/
theorem default_expr_hasType {d : Descriptor} {mode : Mode} {type : ValueType}
    (h : d.resolve mode = .ok type) :
    ∃ value, type.default = .ok value ∧ ∃ e, value.expr = .ok e ∧
      e.HasType type.typeExpr ∧ (∀ t, e.HasType t → t.Alike type.typeExpr) ∧
      (mode = .wire → ∀ t, e.HasType t → t = type.typeExpr) := by
  cases mode with
  | native =>
    cases h
    obtain ⟨value, hvalue, e, he, htypes⟩ := d.native_defaultHasTypes
    exact ⟨value, hvalue, e, he, (htypes _).2 (.refl _), fun t ↦ (htypes t).1, nofun⟩
  | wire =>
    obtain ⟨hloose, rfl⟩ := resolve_wire_eq_ok_iff.1 h
    obtain ⟨value, hvalue, e, he, htypes⟩ := wired_defaultHasTypes hloose
    refine ⟨value, hvalue, e, he, (htypes _).2 rfl, fun t ht ↦ ?_, fun _ t ↦ (htypes t).1⟩
    rw [(htypes t).1 ht]
    exact .refl _

/-- A number, a variant and an array of dictionaries, in a struct. -/
def reading : Descriptor :=
  .struct
    [.primitive .int32, .primitive .variant,
      .array (.dictionary (.primitive .string) (.primitive .objectPath))]

theorem default_expr_hasType_reading :
    reading.resolve .native = .ok reading.native ∧ reading.resolve .wire = .ok reading.wired ∧
      (∃ value, reading.native.default = .ok value ∧ ∃ e, value.expr = .ok e ∧
        e.HasType (.tuple
          [.name (.int .i32), .name .ownedValue, .vec (.hashMap (.name .string) (.name .string))])) ∧
      ∃ value, reading.wired.default = .ok value ∧ ∃ e, value.expr = .ok e ∧
        ∀ t, e.HasType t → t = .name .struct := by
  have hnative : reading.resolve .native = .ok reading.native := rfl
  have hwire : reading.resolve .wire = .ok reading.wired := rfl
  obtain ⟨value, hvalue, e, he, htype, -⟩ := default_expr_hasType hnative
  obtain ⟨value', hvalue', e', he', -, -, honly⟩ := default_expr_hasType hwire
  exact ⟨hnative, hwire, ⟨value, hvalue, e, he, htype⟩, value', hvalue', e', he', honly rfl⟩

end Descriptor

end Introspection
