import Introspection.Proofs.Interface.Content

/-!
# Forests mirror documents

The forest that is built from a document has a node for every recognised element, in the same order
and under the same parent. Every node knows the interface it belongs to, which is the nearest one
around it.
-/

namespace Introspection

/-! ## Nodes of a forest -/

/-- A node of any kind. -/
inductive Node
  | interface (i : Interface)
  | member {kind : MemberKind} (m : Member kind)
  | arg (a : Arg)
  | property (p : Property)
  | annotation (a : Annotation)

namespace Node

def kind : Node → NodeKind
  | interface _ => .interface
  | @member kind _ => .member kind
  | arg _ => .arg
  | property _ => .property
  | annotation _ => NodeKind.annotation

def name : Node → String
  | interface i => i.name
  | member m => m.name
  | arg a => a.name
  | property p => p.name
  | annotation a => a.name

/-- The name of the interface that a node belongs to. -/
def owner : Node → String
  | interface i => i.owner
  | member m => m.owner
  | arg a => a.owner
  | property p => p.owner
  | annotation a => a.owner

/-- The nodes of a kind directly below a node, in order. -/
def children : Node → NodeKind → List Node
  | interface i, NodeKind.annotation => i.annotations.map annotation
  | interface i, .interface => i.interfaces.map interface
  | interface i, .member kind => (i.members kind).map member
  | interface i, .property => i.properties.map property
  | member m, NodeKind.annotation => m.annotations.map annotation
  | member m, .arg => m.args.map arg
  | arg a, NodeKind.annotation => a.annotations.map annotation
  | property p, NodeKind.annotation => p.annotations.map annotation
  | _, _ => []

theorem kind_mem_of_mem_children {n c : Node} {kind : NodeKind} (h : c ∈ n.children kind) :
    kind ∈ n.kind.children := by
  cases n <;> cases kind <;> first | cases h | simp [Node.kind, NodeKind.children]
  case interface.member kind => cases kind <;> simp

/-- A node stands for an element, and so does every node below it: it is named by the element, and
for every recognised tag its children stand one by one for those of the element. -/
inductive Mirrors : Element → Node → Prop
  | intro {e : Element} {n : Node} :
      e.attribute? "name" = some n.name ∨ e.attribute? "name" = none ∧ n.name = "<unnamed>" →
      (∀ kind ∈ n.kind.children,
        List.Forall₂ Mirrors (e.childrenNamed kind.tag) (n.children kind)) →
      Mirrors e n

/-- The nodes of a forest, each with the nearest interface around it. The nearest interface of an
interface is that interface itself. -/
inductive EnclosedBy (forest : List Interface) : Interface → Node → Prop
  | root {i : Interface} : i ∈ forest → EnclosedBy forest i (interface i)
  | nested {i j : Interface} {n : Node} {kind : NodeKind} :
      EnclosedBy forest i n → interface j ∈ n.children kind → EnclosedBy forest j (interface j)
  | child {i : Interface} {n c : Node} {kind : NodeKind} :
      EnclosedBy forest i n → c ∈ n.children kind → c.kind ≠ .interface → EnclosedBy forest i c

/-! ## Where nodes come from -/

/-- The node is what building makes of the element, within an interface of the given name. -/
def BuiltFrom (mode : Mode) (owner : String) (e : Element) : Node → Prop
  | interface i => Interface.ofElement mode e = .ok i
  | @member kind m => Member.ofElement kind mode owner e = .ok m
  | arg a => Arg.ofElement mode owner e = .ok a
  | property p => Property.ofElement owner e = .ok p
  | annotation a => Annotation.ofElement owner e = .ok a

namespace BuiltFrom

variable {mode : Mode} {owner : String} {e : Element} {n : Node}

theorem name_eq (h : BuiltFrom mode owner e n) : n.name = nodeName e := by
  cases n with
  | interface i => exact (Interface.ofElement_eq_ok_iff.1 h).1
  | member m => exact (Member.ofElement_eq_ok_iff.1 h).1
  | arg a => exact (Arg.ofElement_eq_ok_iff.1 h).1
  | property p => exact (Property.ofElement_eq_ok_iff.1 h).1
  | annotation a =>
    obtain ⟨hname, -⟩ := Annotation.ofElement_eq_ok_iff.1 h
    exact hname

theorem owner_eq (h : BuiltFrom mode owner e n) (hn : n.kind ≠ .interface) : n.owner = owner := by
  cases n with
  | interface i => exact absurd rfl hn
  | member m => exact (Member.ofElement_eq_ok_iff.1 h).2.1
  | arg a => exact (Arg.ofElement_eq_ok_iff.1 h).2.1
  | property p => exact (Property.ofElement_eq_ok_iff.1 h).2.1
  | annotation a =>
    obtain ⟨-, howner, -⟩ := Annotation.ofElement_eq_ok_iff.1 h
    exact howner

/-- An interface belongs to itself, wherever it stands. -/
theorem owner_eq_name (h : BuiltFrom mode owner e n) (hn : n.kind = .interface) :
    n.owner = n.name := by
  cases n with
  | interface i => exact (Interface.ofElement_eq_ok_iff.1 h).2.1
  | member | arg | property | annotation => cases hn

theorem forall₂_of_mapM {α : Type} {f : Element → Except Error α} {node : α → Node}
    {es : List Element} {as : List α} (h : es.mapM f = .ok as)
    (hf : ∀ e a, f e = .ok a → BuiltFrom mode owner e (node a)) :
    List.Forall₂ (BuiltFrom mode owner) es (as.map node) :=
  List.forall₂_map_right_iff.2 ((mapM_eq_ok_iff.1 h).imp hf)

theorem forall₂_annotations {annotations : List Annotation}
    (h : Annotation.ofChildren owner e = .ok annotations) :
    List.Forall₂ (BuiltFrom mode owner) (e.childrenNamed "annotation")
      (annotations.map annotation) :=
  forall₂_of_mapM h fun _ _ h ↦ h

/-- The children of a node are built from those of its element, within the interface that the node
belongs to. -/
theorem forall₂_children (h : BuiltFrom mode owner e n) {kind : NodeKind}
    (hkind : kind ∈ n.kind.children) :
    List.Forall₂ (BuiltFrom mode n.owner) (e.childrenNamed kind.tag) (n.children kind) := by
  cases n with
  | interface i =>
    obtain ⟨-, howner, hannotations, hinterfaces, hmembers, hproperties⟩ :=
      Interface.ofElement_eq_ok_iff.1 h
    rw [← howner] at hannotations hmembers hproperties
    cases kind with
    | annotation => exact forall₂_annotations hannotations
    | interface => exact forall₂_of_mapM hinterfaces fun _ _ h ↦ h
    | member kind => exact forall₂_of_mapM (hmembers kind) fun _ _ h ↦ h
    | property => exact forall₂_of_mapM hproperties fun _ _ h ↦ h
    | root | arg => simp [Node.kind, NodeKind.children] at hkind
  | member m =>
    obtain ⟨-, rfl, hannotations, hargs, -⟩ := Member.ofElement_eq_ok_iff.1 h
    cases kind with
    | annotation => exact forall₂_annotations hannotations
    | arg => exact forall₂_of_mapM hargs fun _ _ h ↦ h
    | root | interface | member | property => simp [Node.kind, NodeKind.children] at hkind
  | arg a =>
    obtain ⟨-, rfl, -, -, -, hannotations⟩ := Arg.ofElement_eq_ok_iff.1 h
    obtain rfl : kind = NodeKind.annotation := List.mem_singleton.1 hkind
    exact forall₂_annotations hannotations
  | property p =>
    obtain ⟨-, rfl, -, -, -, -, -, -, -, hannotations⟩ := Property.ofElement_eq_ok_iff.1 h
    obtain rfl : kind = NodeKind.annotation := List.mem_singleton.1 hkind
    exact forall₂_annotations hannotations
  | annotation a => cases hkind

theorem exists_of_mem_children (h : BuiltFrom mode owner e n) {kind : NodeKind} {c : Node}
    (hc : c ∈ n.children kind) : ∃ e, BuiltFrom mode n.owner e c := by
  obtain ⟨e', -, he'⟩ := exists_of_mem_right (h.forall₂_children (kind_mem_of_mem_children hc)) hc
  exact ⟨e', he'⟩

theorem mirrors (h : BuiltFrom mode owner e n) : Mirrors e n := by
  induction e generalizing owner n with
  | element e ih =>
    refine .intro ?_ fun kind hkind ↦ ?_
    · rw [h.name_eq, nodeName]
      cases e.attribute? "name" with
      | none => exact .inr ⟨rfl, rfl⟩
      | some name => exact .inl rfl
    · have hchildren := h.forall₂_children hkind
      rw [List.forall₂_iff_zip] at hchildren ⊢
      refine ⟨hchildren.1, fun {child c} hpair ↦ ?_⟩
      have hchild : child ∈ e.children := List.mem_of_mem_filter (List.of_mem_zip hpair).1
      exact ih child hchild (hchildren.2 hpair)

end BuiltFrom

/-! ## Owners -/

variable {mode : Mode} {root : Element} {forest : List Interface} {i : Interface} {n : Node}

/-- The interfaces of a forest stand within no other one, so any name will do for it. -/
theorem forall₂_builtFrom_of_ofRoot (h : Interface.ofRoot mode root = .ok forest) :
    List.Forall₂ (BuiltFrom mode "") (root.childrenNamed "interface") (forest.map interface) := by
  rw [Interface.ofRoot, Interface.ofElements_eq_mapM] at h
  exact BuiltFrom.forall₂_of_mapM h fun _ _ h ↦ h

/-- Whatever stands in a forest was built within the nearest interface around it. -/
theorem EnclosedBy.exists_builtFrom (hn : EnclosedBy forest i n)
    (h : Interface.ofRoot mode root = .ok forest) :
    n.owner = i.name ∧ ∃ owner e, BuiltFrom mode owner e n := by
  induction hn with
  | root hi =>
    obtain ⟨e, -, he⟩ :=
      exists_of_mem_right (forall₂_builtFrom_of_ofRoot h) (List.mem_map_of_mem hi)
    exact ⟨he.owner_eq_name rfl, _, e, he⟩
  | nested _ hj ih =>
    obtain ⟨-, owner, e, hn⟩ := ih
    obtain ⟨e', he'⟩ := hn.exists_of_mem_children hj
    exact ⟨he'.owner_eq_name rfl, _, e', he'⟩
  | child _ hc hkind ih =>
    obtain ⟨howner, owner, e, hn⟩ := ih
    obtain ⟨e', he'⟩ := hn.exists_of_mem_children hc
    exact ⟨(he'.owner_eq hkind).trans howner, _, e', he'⟩

end Node

/-- The forest that is built from a document mirrors it, node by node and in order, and every node
belongs to the nearest interface around it. -/
theorem forest_mirrors_document {mode : Mode} {root : Element} {forest : List Interface}
    (h : Interface.ofRoot mode root = .ok forest) :
    List.Forall₂ (fun e i ↦ Node.Mirrors e (.interface i)) (root.childrenNamed "interface")
        forest ∧
      ∀ i n, Node.EnclosedBy forest i n → n.owner = i.name := by
  have hbuilt := List.forall₂_map_right_iff.1 (Node.forall₂_builtFrom_of_ofRoot h)
  exact ⟨hbuilt.imp fun _ _ hi ↦ hi.mirrors, fun _ _ hn ↦ (hn.exists_builtFrom h).1⟩

section Recorder

/-- An arg with an annotation, in an interface without a name that is nested in another one. -/
def recorderDocument : Element :=
  ⟨"node", .empty,
    [⟨"interface", .ofList [("name", "org.example.Recorder")],
      [⟨"interface", .empty,
        [⟨"method", .ofList [("name", "Start")],
          [⟨"arg", .ofList [("name", "delay"), ("type", "u")],
            [⟨"annotation", .ofList [("name", "org.example.Unit"), ("value", "ms")], []⟩]⟩]⟩]⟩]⟩]⟩

def delayUnit : Annotation := ⟨"org.example.Unit", unnamed, "ms"⟩

def delayUnitNode : Node := Node.annotation delayUnit

def delay : Arg := ⟨"delay", unnamed, [delayUnit], "u", .input, .integer .uint32⟩

def startMethod : Method := ⟨"Start", unnamed, [], [delay], [.integer 0]⟩

def recording : Interface := ⟨unnamed, unnamed, [], [], [startMethod], [], []⟩

def recorder : Interface :=
  ⟨"org.example.Recorder", "org.example.Recorder", [], [recording], [], [], []⟩

theorem enclosedBy_recording :
    Node.EnclosedBy [recorder] recording (.interface recording) := by
  have hrecorder : Node.EnclosedBy [recorder] recorder (.interface recorder) :=
    .root List.mem_cons_self
  exact @Node.EnclosedBy.nested _ _ _ _ .interface hrecorder List.mem_cons_self

theorem enclosedBy_delayUnit : Node.EnclosedBy [recorder] recording delayUnitNode := by
  have hstart : Node.EnclosedBy [recorder] recording (.member startMethod) :=
    @Node.EnclosedBy.child _ _ _ _ (.member .method) enclosedBy_recording List.mem_cons_self nofun
  have hdelay : Node.EnclosedBy [recorder] recording (.arg delay) :=
    @Node.EnclosedBy.child _ _ _ _ .arg hstart List.mem_cons_self nofun
  exact @Node.EnclosedBy.child _ _ _ _ NodeKind.annotation hdelay List.mem_cons_self nofun

theorem forest_mirrors_document_recorder :
    Interface.ofRoot .native recorderDocument = .ok [recorder] ∧
      List.Forall₂ (fun e i ↦ Node.Mirrors e (.interface i))
        (recorderDocument.childrenNamed "interface") [recorder] ∧
      Node.EnclosedBy [recorder] recording (.interface recording) ∧
      recording.owner = recording.name ∧
      Node.EnclosedBy [recorder] recording delayUnitNode ∧
      delayUnit.owner = recording.name := by
  have h : Interface.ofRoot .native recorderDocument = .ok [recorder] := rfl
  obtain ⟨hmirrors, howner⟩ := forest_mirrors_document h
  exact ⟨h, hmirrors, enclosedBy_recording, howner _ _ enclosedBy_recording,
    enclosedBy_delayUnit, howner _ _ enclosedBy_delayUnit⟩

end Recorder

end Introspection
