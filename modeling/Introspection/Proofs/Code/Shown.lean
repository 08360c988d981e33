import Introspection.Code.Expr
import Introspection.Proofs.Outcome

/-!
# What an expression shows of a value

Written for the wire, a sequence or a mapping is left empty, and of the texts only plain strings are
written out. So what is shown of a value is the value with all this taken out of it, and the two
have the same expression.
-/

namespace Introspection

open Code

/-! ## Shown values -/

namespace Value

mutual

/-- The value with everything emptied that its expression does not show. -/
def shown : Value → Value
  | variant inner => variant inner.shown
  | sequence element items => sequence element (shownAll items)
  | mapping key value entries => mapping key value (shownEntries entries)
  | tuple members => tuple (shownAll members)
  | wire signature (text s) => wire signature (text (if signature = "s" then s else ""))
  | wire signature (sequence element _) => wire signature (sequence element [])
  | wire signature (mapping key value _) => wire signature (mapping key value [])
  | wire signature value => wire signature value.shown
  | v => v

def shownAll : List Value → List Value
  | [] => []
  | v :: vs => v.shown :: shownAll vs

def shownEntries : List (Value × Value) → List (Value × Value)
  | [] => []
  | (k, v) :: entries => (k.shown, v.shown) :: shownEntries entries

end

theorem shownAll_eq_map (values : List Value) : shownAll values = values.map shown := by
  induction values with
  | nil => rfl
  | cons v values ih => rw [shownAll, ih, List.map_cons]

theorem shownEntries_eq_map (entries : List (Value × Value)) :
    shownEntries entries = entries.map fun entry ↦ (entry.1.shown, entry.2.shown) := by
  induction entries with
  | nil => rfl
  | cons entry entries ih => rw [shownEntries, ih, List.map_cons]

theorem shown_sequence (element : ValueType) (items : List Value) :
    (sequence element items).shown = sequence element (items.map shown) := by
  rw [shown, shownAll_eq_map]

theorem shown_mapping (key value : ValueType) (entries : List (Value × Value)) :
    (mapping key value entries).shown =
      mapping key value (entries.map fun entry ↦ (entry.1.shown, entry.2.shown)) := by
  rw [shown, shownEntries_eq_map]

theorem shown_tuple (members : List Value) : (tuple members).shown = tuple (members.map shown) := by
  rw [shown, shownAll_eq_map]

theorem shown_wire_tuple (signature : String) (members : List Value) :
    (wire signature (tuple members)).shown = wire signature (tuple (members.map shown)) := by
  rw [shown, shown_tuple] <;> exact nofun

theorem exists_shown_wire (signature : String) (value : Value) :
    ∃ value', (wire signature value).shown = wire signature value' := by
  cases value <;> exact ⟨_, rfl⟩

/-! ## Nothing else is shown -/

theorem exprs_map_shown {values : List Value} (h : ∀ v ∈ values, v.shown.expr = v.expr) :
    exprs (values.map shown) = exprs values := by
  induction values with
  | nil => rfl
  | cons v values ih =>
    obtain ⟨hv, hvalues⟩ := List.forall_mem_cons.1 h
    rw [List.map_cons, exprs, exprs, hv, ih hvalues]

theorem entryExprs_map_shown {entries : List (Value × Value)}
    (h : ∀ entry ∈ entries,
      entry.1.shown.expr = entry.1.expr ∧ entry.2.shown.expr = entry.2.expr) :
    entryExprs (entries.map fun entry ↦ (entry.1.shown, entry.2.shown)) = entryExprs entries := by
  induction entries with
  | nil => rfl
  | cons entry entries ih =>
    obtain ⟨⟨hkey, hvalue⟩, hentries⟩ := List.forall_mem_cons.1 h
    rw [List.map_cons, entryExprs, entryExprs, hkey, hvalue, ih hentries]

theorem wireText_shown (signature s : String) :
    wireText signature (if signature = "s" then s else "") = wireText signature s := by
  unfold wireText
  split
  · rfl
  · rfl

/-- What is not shown makes no difference to the expression. -/
theorem expr_shown (v : Value) : v.shown.expr = v.expr := by
  induction v with
  | boolean | integer | double | text | bytes => rfl
  | variant inner ih => rw [shown, expr, expr, ih]
  | sequence element items ih =>
    rw [shown_sequence]
    by_cases h : items = []
    · subst h
      rfl
    · have hmap : items.map shown ≠ [] := by simpa using h
      rw [expr_sequence element h, expr_sequence element hmap, exprs_map_shown ih]
  | mapping key value entries ih =>
    rw [shown_mapping]
    by_cases h : entries = []
    · subst h
      rfl
    · have hmap : (entries.map fun entry ↦ (entry.1.shown, entry.2.shown)) ≠ [] := by simpa using h
      rw [expr_mapping key value h, expr_mapping key value hmap, entryExprs_map_shown ih]
  | tuple members ih => rw [shown_tuple, expr, expr, exprs_map_shown ih]
  | wire signature value ih =>
    cases value with
    | boolean | integer | double | bytes | sequence | mapping => rfl
    | text s => exact congrArg Except.ok (wireText_shown signature s)
    | variant inner => exact ih
    | tuple members =>
      rw [shown_tuple, expr, expr] at ih
      have hmembers := eq_of_bind_return_eq (fun _ _ ↦ Expr.tuple.inj) ih
      rw [shown_wire_tuple, expr, expr, hmembers]
    | wire signature' value' =>
      obtain ⟨value'', hshown⟩ := exists_shown_wire signature' value'
      rw [hshown] at ih
      have hwire : (wire signature (wire signature' value')).shown =
          wire signature (wire signature' value'') := congrArg (wire signature) hshown
      rw [hwire]
      exact ih

end Value

/-! ## Expressions of containers -/

namespace Value

variable {e : Expr}

theorem expr_sequence_eq_ok_iff {element : ValueType} {items : List Value} :
    (sequence element items).expr = .ok e ↔
      (items = [] ∧ e = .emptyVec element.typeExpr) ∨
        ∃ es, items ≠ [] ∧ items.mapM expr = .ok es ∧ e = .vec es := by
  by_cases h : items = []
  · subst h
    simp [expr, eq_comm]
  · simp only [expr_sequence element h, exprs_eq_mapM, bind_eq_ok_iff, h, false_and, false_or,
      ne_eq, not_false_eq_true, true_and]
    exact exists_congr fun es ↦ and_congr_right fun _ ↦ return_eq_ok_iff

/-- Two sequences with the same expression have items with the same expressions. -/
theorem exists_mapM_of_expr_sequence {element : ValueType} {items items' : List Value}
    (h : (sequence element items).expr = .ok e) (h' : (sequence element items').expr = .ok e) :
    ∃ es, items.mapM expr = .ok es ∧ items'.mapM expr = .ok es := by
  rcases expr_sequence_eq_ok_iff.1 h with ⟨rfl, rfl⟩ | ⟨es, -, hes, rfl⟩
  · rcases expr_sequence_eq_ok_iff.1 h' with ⟨rfl, -⟩ | ⟨es', -, -, heq⟩
    · exact ⟨[], rfl, rfl⟩
    · cases heq
  · rcases expr_sequence_eq_ok_iff.1 h' with ⟨-, heq⟩ | ⟨es', -, hes', heq⟩
    · cases heq
    · cases heq
      exact ⟨es, hes, hes'⟩

theorem entryExpr_eq_ok_iff {entry : Value × Value} {es : Expr × Expr} :
    entryExpr entry = .ok es ↔ entry.1.expr = .ok es.1 ∧ entry.2.expr = .ok es.2 := by
  simp only [entryExpr, bind_eq_ok_iff]
  constructor
  · rintro ⟨k, hk, v, hv, h⟩
    cases h
    exact ⟨hk, hv⟩
  · rintro ⟨hk, hv⟩
    exact ⟨_, hk, _, hv, rfl⟩

theorem expr_mapping_eq_ok_iff {key value : ValueType} {entries : List (Value × Value)} :
    (mapping key value entries).expr = .ok e ↔
      (entries = [] ∧ e = .emptyMap key.typeExpr value.typeExpr) ∨
        ∃ es, entries ≠ [] ∧ entries.mapM entryExpr = .ok es ∧
          e = .map key.typeExpr value.typeExpr es := by
  by_cases h : entries = []
  · subst h
    simp [expr, eq_comm]
  · simp only [expr_mapping key value h, entryExprs_eq_mapM, bind_eq_ok_iff, h, false_and,
      false_or, ne_eq, not_false_eq_true, true_and]
    exact exists_congr fun es ↦ and_congr_right fun _ ↦ return_eq_ok_iff

/-- Two mappings with the same expression have entries with the same expressions. -/
theorem exists_mapM_of_expr_mapping {key value : ValueType} {entries entries' : List (Value × Value)}
    (h : (mapping key value entries).expr = .ok e)
    (h' : (mapping key value entries').expr = .ok e) :
    ∃ es, entries.mapM entryExpr = .ok es ∧ entries'.mapM entryExpr = .ok es := by
  rcases expr_mapping_eq_ok_iff.1 h with ⟨rfl, rfl⟩ | ⟨es, -, hes, rfl⟩
  · rcases expr_mapping_eq_ok_iff.1 h' with ⟨rfl, -⟩ | ⟨es', -, -, heq⟩
    · exact ⟨[], rfl, rfl⟩
    · cases heq
  · rcases expr_mapping_eq_ok_iff.1 h' with ⟨-, heq⟩ | ⟨es', -, hes', heq⟩
    · cases heq
    · cases heq
      exact ⟨es, hes, hes'⟩

theorem expr_tuple_eq_ok_iff {members : List Value} :
    (tuple members).expr = .ok e ↔ ∃ es, members.mapM expr = .ok es ∧ e = .tuple es := by
  simp only [expr, exprs_eq_mapM, bind_eq_ok_iff]
  exact exists_congr fun es ↦ and_congr_right fun _ ↦ return_eq_ok_iff

theorem expr_wire_tuple_eq_ok_iff {signature : String} {members : List Value} :
    (wire signature (tuple members)).expr = .ok e ↔
      ∃ es, members.mapM expr = .ok es ∧ e = .struct es := by
  simp only [expr, exprs_eq_mapM, bind_eq_ok_iff]
  exact exists_congr fun es ↦ and_congr_right fun _ ↦ return_eq_ok_iff

end Value

end Introspection
