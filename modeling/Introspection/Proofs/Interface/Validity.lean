import Introspection.Proofs.Interface.Faults
import Mathlib.Logic.Relation

/-!
# Valid documents

What makes an element a valid annotation, arg, member, property or interface is said without the
builders. A node is valid exactly if it has no fault, so that building succeeds exactly on valid
documents, and stops with the first fault of any other.
-/

namespace Introspection

variable {mode : Mode} {owner : String} {e : Element} {kind : MemberKind}

/-! ## Valid nodes -/

def Annotation.Valid (e : Element) : Prop :=
  ∃ value, e.attribute? "value" = some value

/-- All annotations directly below the element are valid. -/
def Annotation.AllValid (e : Element) : Prop :=
  ∀ annotation ∈ e.childrenNamed "annotation", Valid annotation

structure Arg.Valid (mode : Mode) (e : Element) : Prop where
  type : ∃ type d, e.attribute? "type" = some type ∧ Signature.parseSingle type = .ok d ∧
    (mode = .wire → ¬ d.HasLooseByte)
  direction : e.attribute? "direction" = none ∨ e.attribute? "direction" = some "in" ∨
    e.attribute? "direction" = some "out"
  annotations : Annotation.AllValid e

structure Member.Valid (kind : MemberKind) (mode : Mode) (e : Element) : Prop where
  annotations : Annotation.AllValid e
  args : ∀ arg ∈ e.childrenNamed "arg", Arg.Valid mode arg
  inputs : (inputTypes kind e).utf8ByteSize ≤ 255

structure Property.Valid (e : Element) : Prop where
  type : ∃ type d, e.attribute? "type" = some type ∧ Signature.parseSingle type = .ok d
  access : ∃ access, e.attribute? "access" = some access ∧ IsAccess access
  annotations : Annotation.AllValid e

/-- The interface itself is valid, whatever the ones nested in it are like. -/
structure Interface.Valid (mode : Mode) (e : Element) : Prop where
  annotations : Annotation.AllValid e
  members : ∀ (kind : MemberKind), ∀ member ∈ e.childrenNamed kind.tag, Member.Valid kind mode member
  properties : ∀ property ∈ e.childrenNamed "property", Property.Valid property

/-- The child is an interface directly below the parent. -/
def Element.HoldsInterface (parent child : Element) : Prop :=
  child ∈ parent.childrenNamed "interface"

/-- Every interface that is reached from the root through interfaces only is valid. -/
def Element.ValidDocument (mode : Mode) (root : Element) : Prop :=
  ∀ e, Relation.TransGen HoldsInterface root e → Interface.Valid mode e

/-! ## Nodes without faults -/

theorem Element.missing_eq_nil_iff {tag name : String} :
    e.missing tag name = [] ↔ ∃ value, e.attribute? name = some value := by
  rw [← (reports_required e tag name).exists_ok_iff]
  exact exists_congr fun _ ↦ required_eq_ok_iff

theorem Annotation.faults_eq_nil_iff : faults e = [] ↔ AllValid e := by
  simp only [faults, List.flatMap_eq_nil_iff, Element.missing_eq_nil_iff, AllValid, Valid]

theorem Direction.faults_eq_nil_iff :
    faults owner e = [] ↔ e.attribute? "direction" = none ∨ e.attribute? "direction" = some "in" ∨
      e.attribute? "direction" = some "out" := by
  unfold faults
  cases e.attribute? "direction" with
  | none => simp
  | some text => simp [or_iff_not_imp_left]

theorem Signature.faults_eq_nil_iff {signature : String} :
    faults mode signature = [] ↔
      ∃ d, parseSingle signature = .ok d ∧ (mode = .wire → ¬ d.HasLooseByte) := by
  unfold faults
  cases parseSingle signature with
  | error error => simp
  | ok d => simp

/-- An element has no fault in its type if it has a type that can be resolved. -/
theorem Element.missing_type_append_eq_nil_iff {tag : String} :
    e.missing tag "type" = [] ∧ e.typeFaults mode owner = [] ↔
      ∃ type d, e.attribute? "type" = some type ∧ Signature.parseSingle type = .ok d ∧
        (mode = .wire → ¬ d.HasLooseByte) := by
  rw [missing_eq_nil_iff]
  unfold typeFaults
  cases e.attribute? "type" with
  | none => simp
  | some type => simp [Signature.faults_eq_nil_iff]

theorem Arg.faults_eq_nil_iff : faults mode owner e = [] ↔ Valid mode e := by
  simp only [faults, List.append_assoc, List.append_eq_nil_iff, Direction.faults_eq_nil_iff,
    Annotation.faults_eq_nil_iff]
  constructor
  · rintro ⟨hmissing, hdirection, htype, hannotations⟩
    exact ⟨Element.missing_type_append_eq_nil_iff.1 ⟨hmissing, htype⟩, hdirection, hannotations⟩
  · rintro ⟨htype, hdirection, hannotations⟩
    obtain ⟨hmissing, htype⟩ := Element.missing_type_append_eq_nil_iff.2 htype
    exact ⟨hmissing, hdirection, htype, hannotations⟩

theorem Member.faults_eq_nil_iff : faults kind mode owner e = [] ↔ Valid kind mode e := by
  have hlength : lengthFaults kind owner e = [] ↔ (inputTypes kind e).utf8ByteSize ≤ 255 := by
    unfold lengthFaults
    split <;> simp [*]
  simp only [faults, List.append_assoc, List.append_eq_nil_iff, List.flatMap_eq_nil_iff,
    Annotation.faults_eq_nil_iff, Arg.faults_eq_nil_iff, hlength]
  constructor
  · rintro ⟨hannotations, hargs, hinputs⟩
    exact ⟨hannotations, hargs, hinputs⟩
  · rintro ⟨hannotations, hargs, hinputs⟩
    exact ⟨hannotations, hargs, hinputs⟩

theorem Property.missing_access_append_eq_nil_iff :
    e.missing "property" "access" = [] ∧ accessFaults owner e = [] ↔
      ∃ access, e.attribute? "access" = some access ∧ IsAccess access := by
  rw [Element.missing_eq_nil_iff]
  unfold accessFaults
  cases e.attribute? "access" with
  | none => simp
  | some access => simp

theorem Property.faults_eq_nil_iff : faults owner e = [] ↔ Valid e := by
  have htypes : (∃ type d, e.attribute? "type" = some type ∧ Signature.parseSingle type = .ok d ∧
      (Mode.native = .wire → ¬ d.HasLooseByte)) ↔
      ∃ type d, e.attribute? "type" = some type ∧ Signature.parseSingle type = .ok d := by
    simp
  simp only [faults, List.append_assoc, List.append_eq_nil_iff, Annotation.faults_eq_nil_iff]
  constructor
  · rintro ⟨hmissingType, hmissingAccess, haccess, htype, hannotations⟩
    exact ⟨htypes.1 (Element.missing_type_append_eq_nil_iff.1 ⟨hmissingType, htype⟩),
      missing_access_append_eq_nil_iff.1 ⟨hmissingAccess, haccess⟩, hannotations⟩
  · rintro ⟨htype, haccess, hannotations⟩
    obtain ⟨hmissingType, htype⟩ := Element.missing_type_append_eq_nil_iff.2 (htypes.2 htype)
    obtain ⟨hmissingAccess, haccess⟩ := missing_access_append_eq_nil_iff.2 haccess
    exact ⟨hmissingType, hmissingAccess, haccess, htype, hannotations⟩

/-! ## Documents without faults -/

namespace Interface

theorem faults_eq_nil_iff :
    faults mode e = [] ↔
      Valid mode e ∧ ∀ child, e.HoldsInterface child → faults mode child = [] := by
  rw [faults_eq]
  simp only [List.append_assoc, List.append_eq_nil_iff, List.flatMap_eq_nil_iff,
    Annotation.faults_eq_nil_iff, Member.faults_eq_nil_iff, Property.faults_eq_nil_iff]
  constructor
  · rintro ⟨hannotations, hinterfaces, hmethods, hproperties, hsignals⟩
    refine ⟨⟨hannotations, ?_, hproperties⟩, hinterfaces⟩
    intro kind
    cases kind with
    | method => exact hmethods
    | signal => exact hsignals
  · rintro ⟨⟨hannotations, hmembers, hproperties⟩, hinterfaces⟩
    exact ⟨hannotations, hinterfaces, hmembers .method, hproperties, hmembers .signal⟩

/-- An interface has no fault if it is valid and so are all that are nested in it. -/
theorem faults_eq_nil_iff_forall_valid :
    faults mode e = [] ↔ ∀ e', Relation.ReflTransGen Element.HoldsInterface e e' → Valid mode e' := by
  induction e with
  | element e ih =>
    rw [faults_eq_nil_iff]
    constructor
    · rintro ⟨hvalid, hnested⟩ e' he'
      rcases Relation.ReflTransGen.cases_head he' with rfl | ⟨child, hchild, hrest⟩
      · exact hvalid
      · exact (ih child (List.mem_of_mem_filter hchild)).1 (hnested child hchild) e' hrest
    · intro h
      refine ⟨h _ .refl, fun child hchild ↦ ?_⟩
      exact (ih child (List.mem_of_mem_filter hchild)).2 fun e' he' ↦ h e' (.head hchild he')

end Interface

theorem Element.documentFaults_eq_nil_iff {root : Element} :
    root.documentFaults mode = [] ↔ root.ValidDocument mode := by
  simp only [documentFaults, List.flatMap_eq_nil_iff, Interface.faults_eq_nil_iff_forall_valid]
  constructor
  · intro h e he
    obtain ⟨child, hchild, hrest⟩ := Relation.TransGen.head'_iff.1 he
    exact h child hchild e hrest
  · intro h child hchild e he
    exact h e (Relation.TransGen.head' hchild he)

/-- A document is built exactly if it is valid, and otherwise its first fault is reported. -/
theorem ofRoot_stops_at_first_fault (mode : Mode) (root : Element) :
    ((∃ interfaces, Interface.ofRoot mode root = .ok interfaces) ↔ root.ValidDocument mode) ∧
      ∀ error, Interface.ofRoot mode root = .error error ↔
        (root.documentFaults mode).head? = some error := by
  have hreports := Interface.reports_ofRoot mode root
  exact ⟨hreports.exists_ok_iff.trans Element.documentFaults_eq_nil_iff, hreports⟩

/-- The method is looked at before the signal, although it stands behind it. -/
example :
    (Element.documentFaults .wire
      ⟨"node", .empty,
        [⟨"interface", .ofList [("name", "org.example.Clock")],
          [⟨"signal", .ofList [("name", "Tick")], [⟨"arg", .ofList [("name", "now")], []⟩]⟩,
            ⟨"method", .ofList [("name", "Set")],
              [⟨"arg", .ofList [("name", "zone"), ("type", "(sy)")], []⟩]⟩]⟩]⟩) =
      [.signature "org.example.Clock.zone" (.noDefault "y"),
        .missingAttribute "arg" "now" "type"] := by
  rfl

end Introspection
