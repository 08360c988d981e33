import Introspection.Proofs.Code.Typing
import Introspection.Proofs.Resolution.Defaults

/-!
# Where a value has no expression

Writing a value looks at the value itself, at what it holds, and so on, but on the wire it passes
over the contents of sequences and mappings. Of the positions that it comes to, two kinds stop it: a
double that is not finite, and a sequence on the wire whose own signature does not start with a
one-byte code. Defaults have neither.
-/

namespace Introspection

open Code

namespace Value

/-! ## Rendered positions -/

mutual

/-- The values that are looked at when a value is written, from left to right. What a sequence or
a mapping holds is not looked at when the container is wrapped itself. -/
def rendered : Value → List Value
  | v@(variant inner) => v :: inner.rendered
  | v@(sequence _ items) => v :: renderedAll items
  | v@(mapping _ _ entries) => v :: renderedEntries entries
  | v@(tuple members) => v :: renderedAll members
  | v@(wire _ value@(sequence _ _)) => [v, value]
  | v@(wire _ value@(mapping _ _ _)) => [v, value]
  | v@(wire _ value) => v :: value.rendered
  | v => [v]

def renderedAll : List Value → List Value
  | [] => []
  | v :: vs => v.rendered ++ renderedAll vs

def renderedEntries : List (Value × Value) → List Value
  | [] => []
  | (k, v) :: entries => k.rendered ++ v.rendered ++ renderedEntries entries

end

theorem renderedAll_eq_flatMap (values : List Value) :
    renderedAll values = values.flatMap rendered := by
  induction values with
  | nil => rfl
  | cons v values ih => rw [renderedAll, ih, List.flatMap_cons]

theorem renderedEntries_eq_flatMap (entries : List (Value × Value)) :
    renderedEntries entries =
      entries.flatMap fun entry ↦ entry.1.rendered ++ entry.2.rendered := by
  induction entries with
  | nil => rfl
  | cons entry entries ih => rw [renderedEntries, ih, List.flatMap_cons]

/-- What stops the writing of a value right where it stands. -/
def refusal? : Value → Option LiteralError
  | double x => if x.isFinite then none else some .notFinite
  | wire signature (sequence _ _) =>
    if (elementSignature? signature).isSome then none else some .noElementSignature
  | _ => none

/-- The refusals at the rendered positions, in the order in which they are met. -/
def refusals (v : Value) : List LiteralError :=
  v.rendered.filterMap refusal?

theorem refusals_double (x : Double) :
    (double x).refusals = if x.isFinite then [] else [.notFinite] := by
  cases h : x.isFinite <;> simp [refusals, rendered, refusal?, h]

theorem refusals_wire_sequence (signature : String) (element : ValueType) (items : List Value) :
    (wire signature (sequence element items)).refusals =
      if (elementSignature? signature).isSome then [] else [.noElementSignature] := by
  cases h : elementSignature? signature <;> simp [refusals, rendered, refusal?, h]

theorem refusals_tuple (members : List Value) :
    (tuple members).refusals = members.flatMap refusals := by
  rw [refusals, rendered, renderedAll_eq_flatMap, List.filterMap_cons_none rfl,
    List.filterMap_flatMap]
  rfl

theorem refusals_sequence (element : ValueType) (items : List Value) :
    (sequence element items).refusals = items.flatMap refusals := by
  rw [refusals, rendered, renderedAll_eq_flatMap, List.filterMap_cons_none rfl,
    List.filterMap_flatMap]
  rfl

theorem refusals_mapping (key value : ValueType) (entries : List (Value × Value)) :
    (mapping key value entries).refusals =
      entries.flatMap fun entry ↦ entry.1.refusals ++ entry.2.refusals := by
  rw [refusals, rendered, renderedEntries_eq_flatMap, List.filterMap_cons_none rfl,
    List.filterMap_flatMap]
  simp only [List.filterMap_append]
  rfl

end Value

/-! ## Failures -/

namespace Value

theorem reports_exprs {values : List Value} (h : ∀ v ∈ values, Reports v.expr v.refusals) :
    Reports (exprs values) (values.flatMap refusals) := by
  rw [exprs_eq_mapM]
  exact .mapM h

/-- Writing a value stops at the first refusal and nowhere else. -/
theorem reports_expr (v : Value) : Reports v.expr v.refusals := by
  induction v with
  | boolean | integer | text | bytes => exact .ok _
  | double x =>
    rw [expr, refusals_double]
    split
    · exact .ok _
    · exact .error _ []
  | variant inner ih => exact ih.bind_return Expr.ownedValue
  | sequence element items ih =>
    rw [refusals_sequence]
    by_cases h : items = []
    · subst h
      exact .ok _
    · rw [expr_sequence element h]
      exact (reports_exprs ih).bind_return Expr.vec
  | mapping key value entries ih =>
    rw [refusals_mapping]
    by_cases h : entries = []
    · subst h
      exact .ok _
    · rw [expr_mapping key value h, entryExprs_eq_mapM]
      refine Reports.bind_return (.mapM fun entry hentry ↦ ?_) _
      obtain ⟨hkey, hvalue⟩ := ih entry hentry
      exact hkey.bind fun k _ ↦ hvalue.bind_return (k, ·)
  | tuple members ih =>
    rw [refusals_tuple]
    exact (reports_exprs ih).bind_return Expr.tuple
  | wire signature value ih =>
    cases value with
    | integer | text | mapping => exact .ok _
    | boolean | double | bytes | variant | wire => exact ih
    | sequence element items =>
      rw [expr, refusals_wire_sequence]
      cases elementSignature? signature with
      | none => exact .error _ []
      | some rest => exact .ok _
    | tuple members => exact (Reports.of_bind_return ih).bind_return Expr.struct

end Value

/-! ## Refused positions -/

theorem Text.isAscii_eq_false_iff {c : Char} : Text.isAscii c = false ↔ 1 < c.utf8Size := by
  have hsize : c.utf8Size = 1 ↔ c.val ≤ 127 := Char.utf8Size_eq_one_iff
  have hval : c.val ≤ 127 ↔ c.toNat < 0x80 := by
    rw [UInt32.le_iff_toNat_le]
    exact Nat.lt_succ_iff.symm
  rw [isAscii, decide_eq_false_iff_not, ← hval, ← hsize]
  have hpos := c.utf8Size_pos
  omega

theorem Code.elementSignature?_eq_none_iff {signature : String} :
    elementSignature? signature = none ↔
      signature = "" ∨ ∃ c rest, signature.toList = c :: rest ∧ 1 < c.utf8Size := by
  rw [elementSignature?, ← String.toList_eq_nil_iff]
  cases signature.toList with
  | nil => simp
  | cons c rest =>
    cases h : Text.isAscii c with
    | false => simpa [h] using Text.isAscii_eq_false_iff.1 h
    | true => simpa [h] using mt Text.isAscii_eq_false_iff.2 (by simp [h])

namespace Value

/-- A value that cannot be written because of what it is itself: a double that is not finite, or a
sequence on the wire whose signature has no one-byte code to drop. -/
def IsRefused (v : Value) : Prop :=
  (∃ x : Double, v = double x ∧ x.isFinite = false) ∨
    ∃ signature element items, v = wire signature (sequence element items) ∧
      (signature = "" ∨ ∃ c rest, signature.toList = c :: rest ∧ 1 < c.utf8Size)

theorem refusal?_eq_none_iff {v : Value} : v.refusal? = none ↔ ¬ v.IsRefused := by
  unfold refusal?
  split
  · next x => simp [IsRefused]
  · next signature element items =>
    have hnone : elementSignature? signature = none ↔ _ := elementSignature?_eq_none_iff
    cases h : elementSignature? signature <;> simp_all [IsRefused]
  · next hdouble hwire =>
    refine iff_of_true rfl ?_
    rintro (⟨x, rfl, -⟩ | ⟨signature, element, items, rfl, -⟩)
    · exact hdouble x rfl
    · exact hwire signature element items rfl

theorem exists_expr_iff {v : Value} :
    (∃ e, v.expr = .ok e) ↔ ∀ position ∈ v.rendered, ¬ position.IsRefused := by
  rw [v.reports_expr.exists_ok_iff, refusals, List.filterMap_eq_nil_iff]
  exact forall₂_congr fun _ _ ↦ refusal?_eq_none_iff

end Value

/-! ## Defaults -/

theorem Descriptor.exists_expr_of_resolve {d : Descriptor} {mode : Mode} {type : ValueType}
    {value : Value} (h : d.resolve mode = .ok type) (hvalue : type.default = .ok value) :
    ∃ e, value.expr = .ok e := by
  cases mode with
  | native =>
    cases h
    obtain ⟨value', hvalue', e, he, -⟩ := d.native_defaultHasTypes
    cases hvalue.symm.trans hvalue'
    exact ⟨e, he⟩
  | wire =>
    obtain ⟨hloose, rfl⟩ := resolve_wire_eq_ok_iff.1 h
    obtain ⟨value', hvalue', e, he, -⟩ := wired_defaultHasTypes hloose
    cases hvalue.symm.trans hvalue'
    exact ⟨e, he⟩

theorem Signature.exists_expr_of_mem_defaults {mode : Mode} {signature : String}
    {values : List Value} (h : defaults mode signature = .ok values) {value : Value}
    (hvalue : value ∈ values) : ∃ e, value.expr = .ok e := by
  obtain ⟨types, htypes, hvalues⟩ := defaults_eq_ok_iff.1 h
  obtain ⟨type, htype, hdefault⟩ := exists_of_mapM_eq_ok hvalues hvalue
  obtain ⟨ds, -, hds⟩ := resolve_eq_ok_iff.1 htypes
  obtain ⟨d, -, hd⟩ := exists_of_mapM_eq_ok hds htype
  exact Descriptor.exists_expr_of_resolve hd hdefault

/-- A value has no expression exactly if some rendered position is refused. So the defaults of a
signature all have one, in either mode. -/
theorem expr_fails_at_refused_positions :
    (∀ v : Value, (∃ error, v.expr = .error error) ↔
      ∃ position ∈ v.rendered, position.IsRefused) ∧
    ∀ (signature : String) (mode : Mode),
      (∃ error, Signature.defaults mode signature = .error error) ∨
        ∃ values es, Signature.defaults mode signature = .ok values ∧
          List.Forall₂ (fun value e ↦ value.expr = .ok e) values es := by
  constructor
  · intro v
    have hok := v.exists_expr_iff
    cases hv : v.expr with
    | ok e =>
      have hnone := hok.1 ⟨e, hv⟩
      simpa using hnone
    | error error =>
      have hsome : ¬ ∃ e, v.expr = .ok e := by simp [hv]
      rw [hok] at hsome
      simpa using hsome
  · intro signature mode
    cases hdefaults : Signature.defaults mode signature with
    | error error => exact .inl ⟨error, rfl⟩
    | ok values =>
      obtain ⟨es, hes⟩ := exists_mapM_eq_ok fun value hvalue ↦
        Signature.exists_expr_of_mem_defaults hdefaults hvalue
      exact .inr ⟨values, es, rfl, mapM_eq_ok_iff.1 hes⟩

/-- The signature is cut even where the type of the elements has one of its own. -/
example : (Value.wire "" (.sequence (.wire "s" (.text .string)) [])).expr =
    .error .noElementSignature := rfl

end Introspection
