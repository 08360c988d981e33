import Introspection.Interface.Build
import Introspection.Proofs.Resolution.Defaults

/-!
# The parts of built nodes

A node is built exactly if each of its parts is, and it then consists of these parts. So every
interface of a document, however deep it is nested, was built from an element of its own, and so
was every method and signal in it.
-/

namespace Introspection

variable {mode : Mode} {owner : String} {e : Element} {kind : MemberKind}

theorem required_eq_ok_iff {tag name value : String} :
    required e tag name = .ok value ↔ e.attribute? name = some value := by
  unfold required
  split
  · next h => simp [h]
  · next h => simp [h]

namespace Signature

theorem resolveSingle_eq_ok_iff {signature : String} {type : ValueType} :
    resolveSingle mode signature = .ok type ↔
      ∃ d, parseSingle signature = .ok d ∧ d.resolve mode = .ok type :=
  bind_eq_ok_iff

end Signature

theorem Annotation.ofElement_eq_ok_iff {a : Annotation} :
    ofElement owner e = .ok a ↔
      a.name = nodeName e ∧ a.owner = owner ∧
        e.attribute? "value" = some a.value := by
  simp only [ofElement, bind_eq_ok_iff, required_eq_ok_iff]
  constructor
  · rintro ⟨value, hvalue, h⟩
    cases h
    exact ⟨rfl, rfl, hvalue⟩
  · rintro ⟨hname, howner, hvalue⟩
    refine ⟨_, hvalue, ?_⟩
    rw [← hname, ← howner]
    rfl

/-! ## Args and members -/

namespace MemberKind

/-- The tag of the elements that members of a kind are built from. -/
def tag : MemberKind → String
  | method => "method"
  | signal => "signal"

/-- The default values that are kept are those of the input side. -/
theorem takesDefault_eq_includes (kind : MemberKind) :
    kind.takesDefault = kind.includes .input := by
  cases kind <;> rfl

end MemberKind

theorem Direction.ofElement_eq_ok_iff {direction : Direction} :
    ofElement owner e = .ok direction ↔
      e.attribute? "direction" = some direction.text ∨
        e.attribute? "direction" = none ∧ direction = .input := by
  unfold ofElement
  cases e.attribute? "direction" with
  | none => simp [eq_comm]
  | some text =>
    have htext : (some text = some direction.text ∨ some text = none ∧ direction = .input) ↔
        ofText? text = some direction := by
      simp [ofText?_eq_some_iff]
    rw [htext]
    dsimp only
    cases ofText? text <;> simp

theorem Arg.ofElement_eq_ok_iff {arg : Arg} :
    ofElement mode owner e = .ok arg ↔
      arg.name = nodeName e ∧ arg.owner = owner ∧
        e.attribute? "type" = some arg.type ∧
        Direction.ofElement owner e = .ok arg.direction ∧
        Signature.resolveSingle mode arg.type = .ok arg.resolved ∧
        Annotation.ofChildren owner e = .ok arg.annotations := by
  simp only [ofElement, bind_eq_ok_iff, required_eq_ok_iff, mapError_eq_ok_iff]
  constructor
  · rintro ⟨type, htype, direction, hdirection, resolved, hresolved, annotations, hannotations, h⟩
    cases h
    exact ⟨rfl, rfl, htype, hdirection, hresolved, hannotations⟩
  · rintro ⟨hname, howner, htype, hdirection, hresolved, hannotations⟩
    refine ⟨_, htype, _, hdirection, _, hresolved, _, hannotations, ?_⟩
    rw [← hname, ← howner]
    rfl

theorem Member.ofElement_eq_ok_iff {m : Member kind} :
    ofElement kind mode owner e = .ok m ↔
      m.name = nodeName e ∧ m.owner = owner ∧
        Annotation.ofChildren owner e = .ok m.annotations ∧
        (e.childrenNamed "arg").mapM (Arg.ofElement mode owner) = .ok m.args ∧
        Signature.defaults mode (m.signature .input) = .ok m.defaults := by
  simp only [ofElement, kind.takesDefault_eq_includes, bind_eq_ok_iff, mapError_eq_ok_iff]
  constructor
  · rintro ⟨annotations, hannotations, args, hargs, defaults, hdefaults, h⟩
    cases h
    exact ⟨rfl, rfl, hannotations, hargs, hdefaults⟩
  · rintro ⟨hname, howner, hannotations, hargs, hdefaults⟩
    refine ⟨_, hannotations, _, hargs, _, hdefaults, ?_⟩
    rw [← hname, ← howner]
    rfl

/-! ## Properties -/

theorem Property.ofElement_eq_ok_iff {p : Property} :
    ofElement owner e = .ok p ↔
      p.name = nodeName e ∧ p.owner = owner ∧ e.attribute? "type" = some p.type ∧
        e.attribute? "access" = some p.access ∧ p.read = grants p.access "read" ∧
        p.write = grants p.access "write" ∧ (p.read || p.write) = true ∧
        Signature.resolveSingle .native p.type = .ok p.resolved ∧
        p.resolved.default = .ok p.value ∧ Annotation.ofChildren owner e = .ok p.annotations := by
  simp only [ofElement, bind_eq_ok_iff, required_eq_ok_iff]
  constructor
  · rintro ⟨type, htype, access, haccess, h⟩
    split at h
    · next hgrants =>
      simp only [bind_eq_ok_iff, mapError_eq_ok_iff] at h
      obtain ⟨resolved, hresolved, value, hvalue, annotations, hannotations, h⟩ := h
      cases h
      exact ⟨rfl, rfl, htype, haccess, rfl, rfl, hgrants, hresolved, hvalue, hannotations⟩
    · cases h
  · rintro ⟨hname, rfl, htype, haccess, hread, hwrite, hgrants, hresolved, hvalue, hannotations⟩
    refine ⟨_, htype, _, haccess, ?_⟩
    rw [← hname, ← hread, ← hwrite, if_pos hgrants]
    simp only [bind_eq_ok_iff, mapError_eq_ok_iff]
    exact ⟨_, hresolved, _, hvalue, _, hannotations, rfl⟩

/-! ## Interfaces -/

namespace Interface

/-- The methods or the signals of an interface. -/
def members : (kind : MemberKind) → Interface → List (Member kind)
  | .method, i => i.methods
  | .signal, i => i.signals

/-- The interfaces of a list and those nested in them, at any depth. -/
inductive Within : List Interface → Interface → Prop
  | direct {interfaces : List Interface} {i : Interface} : i ∈ interfaces → Within interfaces i
  | nested {interfaces : List Interface} {i j : Interface} :
      j ∈ interfaces → Within j.interfaces i → Within interfaces i

theorem ofElements_eq_mapM (es : List Element) :
    ofElements mode es = (es.filter fun e ↦ e.tag == "interface").mapM (ofElement mode) := by
  induction es with
  | nil => rfl
  | cons e es ih =>
    rw [ofElements]
    split
    · next h => rw [List.filter_cons_of_pos (by simpa using h), List.mapM_cons, ih]
    · next h => rw [List.filter_cons_of_neg (by simpa using h), ih]

theorem ofElement_eq (mode : Mode) (e : Element) :
    ofElement mode e = do
      let annotations ← Annotation.ofChildren (nodeName e) e
      let interfaces ← (e.childrenNamed "interface").mapM (ofElement mode)
      let methods ← (e.childrenNamed "method").mapM (Member.ofElement .method mode (nodeName e))
      let properties ← (e.childrenNamed "property").mapM (Property.ofElement (nodeName e))
      let signals ← (e.childrenNamed "signal").mapM (Member.ofElement .signal mode (nodeName e))
      return ⟨nodeName e, nodeName e, annotations, interfaces, methods, properties, signals⟩ := by
  obtain ⟨tag, attributes, children⟩ := e
  rw [ofElement, ofElements_eq_mapM]
  rfl

theorem ofElement_eq_ok_iff {i : Interface} :
    ofElement mode e = .ok i ↔
      i.name = nodeName e ∧ i.owner = i.name ∧
        Annotation.ofChildren i.name e = .ok i.annotations ∧
        (e.childrenNamed "interface").mapM (ofElement mode) = .ok i.interfaces ∧
        (∀ kind : MemberKind, (e.childrenNamed kind.tag).mapM (Member.ofElement kind mode i.name) =
          .ok (i.members kind)) ∧
        (e.childrenNamed "property").mapM (Property.ofElement i.name) = .ok i.properties := by
  rw [ofElement_eq]
  simp only [bind_eq_ok_iff]
  constructor
  · rintro ⟨annotations, hannotations, interfaces, hinterfaces, methods, hmethods, properties,
      hproperties, signals, hsignals, h⟩
    cases h
    refine ⟨rfl, rfl, hannotations, hinterfaces, ?_, hproperties⟩
    intro kind
    cases kind with
    | method => exact hmethods
    | signal => exact hsignals
  · rintro ⟨hname, howner, hannotations, hinterfaces, hmembers, hproperties⟩
    rw [← hname]
    refine ⟨_, hannotations, _, hinterfaces, _, hmembers .method, _, hproperties, _,
      hmembers .signal, ?_⟩
    cases i
    cases howner
    rfl

/-- Every interface of a document, nested or not, was built from an element of the document. What
holds of the elements at the top, and passes on to children, holds of that element. -/
theorem exists_ofElement_of_within_of_forall {P : Element → Prop} {es : List Element}
    {interfaces : List Interface} {i : Interface} (hes : ∀ e ∈ es, P e)
    (hchildren : ∀ e, P e → ∀ child ∈ e.children, P child)
    (h : ofElements mode es = .ok interfaces) (hi : Within interfaces i) :
    ∃ e, P e ∧ ofElement mode e = .ok i := by
  induction hi generalizing es with
  | direct hi =>
    rw [ofElements_eq_mapM] at h
    obtain ⟨e, he, hbuilt⟩ := exists_of_mapM_eq_ok h hi
    exact ⟨e, hes e (List.mem_of_mem_filter he), hbuilt⟩
  | nested hj _ ih =>
    rw [ofElements_eq_mapM] at h
    obtain ⟨e, he, hbuilt⟩ := exists_of_mapM_eq_ok h hj
    refine @ih e.children (hchildren e (hes e (List.mem_of_mem_filter he))) ?_
    rw [ofElements_eq_mapM]
    obtain ⟨-, -, -, hinterfaces, -⟩ := ofElement_eq_ok_iff.1 hbuilt
    exact hinterfaces

theorem exists_ofElement_of_within {es : List Element} {interfaces : List Interface}
    {i : Interface} (h : ofElements mode es = .ok interfaces) (hi : Within interfaces i) :
    ∃ e, ofElement mode e = .ok i := by
  obtain ⟨e, -, he⟩ := exists_ofElement_of_within_of_forall (P := fun _ ↦ True)
    (fun _ _ ↦ trivial) (fun _ _ _ _ ↦ trivial) h hi
  exact ⟨e, he⟩

theorem exists_ofElement_of_mem_members {i : Interface} (h : ofElement mode e = .ok i)
    {m : Member kind} (hm : m ∈ i.members kind) :
    ∃ e, Member.ofElement kind mode i.name e = .ok m := by
  obtain ⟨-, -, -, -, hmembers, -⟩ := ofElement_eq_ok_iff.1 h
  obtain ⟨e, -, he⟩ := exists_of_mapM_eq_ok (hmembers kind) hm
  exact ⟨e, he⟩

end Interface

end Introspection
