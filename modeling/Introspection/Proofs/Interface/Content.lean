import Introspection.Proofs.Interface.Parts
import Mathlib.Logic.Relation

/-!
# Recognised content

Nodes of every kind have attributes and children that are recognised. Building looks at nothing
else, and at the children of one tag after the other, so two documents that agree on recognised
content have the same outcome. Foreign attributes and children may be set, added and taken away, and
children of different tags may trade places.
-/

namespace Introspection

variable {mode : Mode} {owner : String} {e e' : Element}

/-! ## Kinds of nodes -/

inductive NodeKind
  | root
  | interface
  | member (kind : MemberKind)
  | arg
  | property
  | annotation
  deriving DecidableEq

namespace NodeKind

def tag : NodeKind → String
  | root => "node"
  | interface => "interface"
  | member kind => kind.tag
  | arg => "arg"
  | property => "property"
  | annotation => "annotation"

theorem tag_injective : Function.Injective tag := by
  intro kind kind' h
  rcases kind with _ | _ | (_ | _) | _ | _ | _ <;>
    rcases kind' with _ | _ | (_ | _) | _ | _ | _ <;>
    first | rfl | simp [tag, MemberKind.tag] at h

/-- The names of the attributes that are recognised. -/
def attributes : NodeKind → List String
  | root => []
  | interface => ["name"]
  | member _ => ["name"]
  | arg => ["name", "type", "direction"]
  | property => ["name", "type", "access"]
  | annotation => ["name", "value"]

/-- The kinds of the children that are recognised. -/
def children : NodeKind → List NodeKind
  | root => [interface]
  | interface => [ annotation, interface, member .method, property, member .signal]
  | member _ => [ annotation, arg]
  | arg => [ annotation]
  | property => [ annotation]
  | annotation => []

end NodeKind

/-! ## Agreement -/

namespace Element

/-- As nodes of a kind, both elements have the same recognised attributes and, for every recognised
tag, equally many children with this tag, which agree one by one. -/
inductive Agree : NodeKind → Element → Element → Prop
  | intro {kind : NodeKind} {e e' : Element}
      (attributes : ∀ name ∈ kind.attributes, e.attribute? name = e'.attribute? name)
      (sizes : ∀ child ∈ kind.children,
        (e.childrenNamed child.tag).length = (e'.childrenNamed child.tag).length)
      (children : ∀ child ∈ kind.children,
        ∀ pair ∈ (e.childrenNamed child.tag).zip (e'.childrenNamed child.tag),
          Agree child pair.1 pair.2) :
      Agree kind e e'

theorem agree_iff {kind : NodeKind} :
    Agree kind e e' ↔
      (∀ name ∈ kind.attributes, e.attribute? name = e'.attribute? name) ∧
        ∀ child ∈ kind.children,
          List.Forall₂ (Agree child) (e.childrenNamed child.tag) (e'.childrenNamed child.tag) := by
  simp only [List.forall₂_iff_zip]
  constructor
  · rintro ⟨hattributes, hsizes, hchildren⟩
    exact ⟨hattributes, fun child hchild ↦ ⟨hsizes child hchild, hchildren child hchild _⟩⟩
  · rintro ⟨hattributes, hchildren⟩
    exact .intro hattributes (fun child hchild ↦ (hchildren child hchild).1)
      fun child hchild _ hpair ↦ (hchildren child hchild).2 hpair

section Agree

variable {kind : NodeKind}

theorem Agree.attribute?_eq (h : Agree kind e e') (name : String)
    (hname : name ∈ kind.attributes) : e.attribute? name = e'.attribute? name :=
  (agree_iff.1 h).1 name hname

theorem Agree.forall₂ (h : Agree kind e e') (child : NodeKind) (hchild : child ∈ kind.children) :
    List.Forall₂ (Agree child) (e.childrenNamed child.tag) (e'.childrenNamed child.tag) :=
  (agree_iff.1 h).2 child hchild

theorem Agree.refl (kind : NodeKind) (e : Element) : Agree kind e e := by
  induction e generalizing kind with
  | element e ih =>
    refine agree_iff.2 ⟨fun _ _ ↦ rfl, fun child _ ↦ List.forall₂_same.2 ?_⟩
    exact fun e he ↦ ih e (List.mem_of_mem_filter he) child

end Agree

end Element

/-! ## Building what agrees -/

section Build

open Element

variable {kind : NodeKind}

theorem nodeName_eq_of_agree (h : Agree kind e e') (hname : "name" ∈ kind.attributes) :
    nodeName e = nodeName e' := by
  rw [nodeName, nodeName, h.attribute?_eq "name" hname]

/-- A missing attribute is reported with the name of its node, so the name has to agree as well. -/
theorem required_eq_of_agree (h : Agree kind e e') (hname : "name" ∈ kind.attributes)
    (tag name : String) (hattribute : name ∈ kind.attributes) :
    required e tag name = required e' tag name := by
  rw [required, required, h.attribute?_eq name hattribute, nodeName_eq_of_agree h hname]

theorem Annotation.ofElement_eq_of_agree (h : Agree NodeKind.annotation e e') :
    ofElement owner e = ofElement owner e' := by
  rw [ofElement, ofElement, required_eq_of_agree h (by decide) "annotation" "value" (by decide),
    nodeName_eq_of_agree h (by decide)]

theorem Annotation.ofChildren_eq_of_agree (h : Agree kind e e')
    (hkind : NodeKind.annotation ∈ kind.children) : ofChildren owner e = ofChildren owner e' :=
  mapM_eq_mapM (h.forall₂ NodeKind.annotation hkind) fun _ _ _ hagree ↦ ofElement_eq_of_agree hagree

theorem Direction.ofElement_eq_of_agree (h : Agree .arg e e') :
    ofElement owner e = ofElement owner e' := by
  rw [ofElement, ofElement, h.attribute?_eq "direction" (by decide),
    nodeName_eq_of_agree h (by decide)]

theorem Arg.ofElement_eq_of_agree (h : Agree .arg e e') :
    ofElement mode owner e = ofElement mode owner e' := by
  rw [ofElement, ofElement, nodeName_eq_of_agree h (by decide),
    required_eq_of_agree h (by decide) "arg" "type" (by decide),
    Direction.ofElement_eq_of_agree h, Annotation.ofChildren_eq_of_agree h (by decide)]

theorem Member.ofElement_eq_of_agree {kind : MemberKind} (h : Agree (.member kind) e e') :
    ofElement kind mode owner e = ofElement kind mode owner e' := by
  have hargs : (e.childrenNamed "arg").mapM (Arg.ofElement mode owner) =
      (e'.childrenNamed "arg").mapM (Arg.ofElement mode owner) := by
    refine mapM_eq_mapM (h.forall₂ .arg (by simp [NodeKind.children])) ?_
    exact fun _ _ _ hagree ↦ Arg.ofElement_eq_of_agree hagree
  rw [ofElement, ofElement, nodeName_eq_of_agree h (by simp [NodeKind.attributes]), hargs,
    Annotation.ofChildren_eq_of_agree h (by simp [NodeKind.children])]

theorem Property.ofElement_eq_of_agree (h : Agree .property e e') :
    ofElement owner e = ofElement owner e' := by
  rw [ofElement, ofElement, nodeName_eq_of_agree h (by decide),
    required_eq_of_agree h (by decide) "property" "type" (by decide),
    required_eq_of_agree h (by decide) "property" "access" (by decide),
    Annotation.ofChildren_eq_of_agree h (by decide)]

namespace Interface

theorem ofElement_eq_of_agree (h : Agree .interface e e') :
    ofElement mode e = ofElement mode e' := by
  induction e generalizing e' with
  | element e ih =>
    have hname : nodeName e = nodeName e' := nodeName_eq_of_agree h (by decide)
    have hinterfaces : (e.childrenNamed "interface").mapM (ofElement mode) =
        (e'.childrenNamed "interface").mapM (ofElement mode) := by
      refine mapM_eq_mapM (h.forall₂ .interface (by decide)) ?_
      exact fun child hchild _ hagree ↦ ih child (List.mem_of_mem_filter hchild) hagree
    have hmembers (kind : MemberKind) :
        (e.childrenNamed kind.tag).mapM (Member.ofElement kind mode (nodeName e)) =
          (e'.childrenNamed kind.tag).mapM (Member.ofElement kind mode (nodeName e)) := by
      refine mapM_eq_mapM (h.forall₂ (.member kind) (by cases kind <;> decide)) ?_
      exact fun _ _ _ hagree ↦ Member.ofElement_eq_of_agree hagree
    have hproperties : (e.childrenNamed "property").mapM (Property.ofElement (nodeName e)) =
        (e'.childrenNamed "property").mapM (Property.ofElement (nodeName e)) := by
      refine mapM_eq_mapM (h.forall₂ .property (by decide)) ?_
      exact fun _ _ _ hagree ↦ Property.ofElement_eq_of_agree hagree
    have hmethods := hmembers .method
    have hsignals := hmembers .signal
    simp only [MemberKind.tag] at hmethods hsignals
    rw [ofElement_eq, ofElement_eq, Annotation.ofChildren_eq_of_agree h (by decide), hinterfaces,
      hmethods, hproperties, hsignals, hname]

theorem ofRoot_eq_of_agree {root root' : Element} (h : Agree .root root root') :
    ofRoot mode root = ofRoot mode root' := by
  rw [ofRoot, ofRoot, ofElements_eq_mapM, ofElements_eq_mapM]
  refine mapM_eq_mapM (h.forall₂ .interface (by decide)) ?_
  exact fun _ _ _ hagree ↦ ofElement_eq_of_agree hagree

end Interface

end Build

/-! ## Edits of what is not recognised -/

namespace Element

/-- A single change to what is not recognised, or to the order of children of different tags, in an
element that is a node of the given kind. It may stand anywhere below it. -/
inductive Edit : NodeKind → Element → Element → Prop
  | set {kind : NodeKind} {e : Element} {name : String} (value : String) :
      name ∉ kind.attributes → Edit kind e (e.withAttribute name value)
  | add {kind : NodeKind} {tag : String} {attributes : Attributes} {before after : List Element}
      {child : Element} :
      (∀ k ∈ kind.children, child.tag ≠ k.tag) →
        Edit kind ⟨tag, attributes, before ++ after⟩ ⟨tag, attributes, before ++ child :: after⟩
  | swap {kind : NodeKind} {tag : String} {attributes : Attributes} {before after : List Element}
      {child child' : Element} :
      child.tag ≠ child'.tag →
        Edit kind ⟨tag, attributes, before ++ child :: child' :: after⟩
          ⟨tag, attributes, before ++ child' :: child :: after⟩
  | inside {kind k : NodeKind} {tag : String} {attributes : Attributes}
      {before after : List Element} {child child' : Element} :
      k ∈ kind.children → child.tag = k.tag → child'.tag = k.tag → Edit k child child' →
        Edit kind ⟨tag, attributes, before ++ child :: after⟩
          ⟨tag, attributes, before ++ child' :: after⟩

theorem attribute?_withAttribute {name key : String} (h : key ≠ name) (value : String) :
    (e.withAttribute name value).attribute? key = e.attribute? key := by
  rw [attribute?, withAttribute, Attributes.get?_insert, if_neg h, attribute?]

theorem childrenNamed_append (tag : String) (attributes : Attributes) (before after : List Element)
    (name : String) :
    childrenNamed ⟨tag, attributes, before ++ after⟩ name =
      childrenNamed ⟨tag, attributes, before⟩ name ++ childrenNamed ⟨tag, attributes, after⟩ name :=
  List.filter_append before after

theorem childrenNamed_cons (tag : String) (attributes : Attributes) (child : Element)
    (rest : List Element) (name : String) :
    childrenNamed ⟨tag, attributes, child :: rest⟩ name =
      if child.tag = name then child :: childrenNamed ⟨tag, attributes, rest⟩ name
      else childrenNamed ⟨tag, attributes, rest⟩ name := by
  simp [childrenNamed, List.filter_cons]

/-- Elements with the same attributes and the same children of every recognised tag agree. -/
theorem agree_of_childrenNamed_eq {kind : NodeKind}
    (hattributes : ∀ name ∈ kind.attributes, e.attribute? name = e'.attribute? name)
    (hchildren : ∀ child ∈ kind.children, e.childrenNamed child.tag = e'.childrenNamed child.tag) :
    Agree kind e e' := by
  refine agree_iff.2 ⟨hattributes, fun child hchild ↦ ?_⟩
  rw [hchildren child hchild]
  exact List.forall₂_same.2 fun e _ ↦ .refl child e

/-- No edit touches what is recognised. -/
theorem Edit.agree {kind : NodeKind} (h : Edit kind e e') : Agree kind e e' := by
  induction h with
  | set value hname =>
    refine agree_of_childrenNamed_eq (fun key hkey ↦ ?_) fun _ _ ↦ rfl
    rw [attribute?_withAttribute (ne_of_mem_of_not_mem hkey hname)]
  | add hchild =>
    refine agree_of_childrenNamed_eq (fun _ _ ↦ rfl) fun k hk ↦ ?_
    rw [childrenNamed_append, childrenNamed_append, childrenNamed_cons, if_neg (hchild k hk)]
  | @swap kind tag attributes before after child child' hne =>
    refine agree_of_childrenNamed_eq (fun _ _ ↦ rfl) fun k _ ↦ ?_
    simp only [childrenNamed_append, childrenNamed_cons]
    by_cases hchild : child.tag = k.tag
    · rw [if_pos hchild, if_pos hchild, if_neg (hchild ▸ hne.symm), if_neg (hchild ▸ hne.symm)]
    · simp only [if_neg hchild]
  | @inside kind k tag attributes before after child child' _ hchild hchild' _ ih =>
    refine agree_iff.2 ⟨fun _ _ ↦ rfl, fun k' _ ↦ ?_⟩
    simp only [childrenNamed_append, childrenNamed_cons, hchild, hchild']
    refine List.rel_append (List.forall₂_same.2 fun e _ ↦ .refl k' e) ?_
    split
    · next htag =>
      obtain rfl := NodeKind.tag_injective htag
      exact .cons ih (List.forall₂_same.2 fun e _ ↦ .refl k e)
    · exact List.forall₂_same.2 fun e _ ↦ .refl k' e

end Element

/-! ## Documents with the same content -/

/-- Documents that agree on what is recognised have the same outcome, be it interfaces or an error.
In particular no series of edits of anything else, be they made or undone, changes the outcome. -/
theorem ofRoot_sees_recognised_content (mode : Mode) (root root' : Element) :
    (Element.Agree .root root root' → Interface.ofRoot mode root = Interface.ofRoot mode root') ∧
      (Relation.EqvGen (Element.Edit .root) root root' →
        Interface.ofRoot mode root = Interface.ofRoot mode root') := by
  refine ⟨Interface.ofRoot_eq_of_agree, fun h ↦ ?_⟩
  induction h with
  | rel _ _ hedit => exact Interface.ofRoot_eq_of_agree hedit.agree
  | refl => rfl
  | symm _ _ _ ih => exact ih.symm
  | trans _ _ _ _ _ ih ih' => exact ih.trans ih'

section Player

def playMethod : Element :=
  ⟨"method", .ofList [("name", "Play")], [⟨"arg", .ofList [("name", "track")], []⟩]⟩

def volumeProperty : Element :=
  ⟨"property", .ofList [("name", "Volume"), ("type", "d")], []⟩

/-- An arg without a type and a property without an access. -/
def playerDocument : Element :=
  ⟨"node", .empty,
    [⟨"interface", .ofList [("name", "org.example.Player")], [playMethod, volumeProperty]⟩]⟩

/-- The same with a foreign element before the interface. -/
def documentedPlayer : Element :=
  ⟨"node", .empty,
    [⟨"doc", .ofList [("name", "Players")], [playMethod]⟩,
      ⟨"interface", .ofList [("name", "org.example.Player")], [playMethod, volumeProperty]⟩]⟩

/-- The same with the property before the method. -/
def shuffledPlayer : Element :=
  ⟨"node", .empty,
    [⟨"doc", .ofList [("name", "Players")], [playMethod]⟩,
      ⟨"interface", .ofList [("name", "org.example.Player")], [volumeProperty, playMethod]⟩]⟩

/-- The arg is reported wherever the method stands. -/
theorem ofRoot_sees_recognised_content_player :
    Element.Agree .root playerDocument documentedPlayer ∧
      Relation.EqvGen (Element.Edit .root) documentedPlayer shuffledPlayer ∧
      Interface.ofRoot .native playerDocument =
        .error (.missingAttribute "arg" "track" "type") ∧
      Interface.ofRoot .native documentedPlayer =
        .error (.missingAttribute "arg" "track" "type") ∧
      Interface.ofRoot .native shuffledPlayer =
        .error (.missingAttribute "arg" "track" "type") := by
  have hdocumented : Element.Edit .root playerDocument documentedPlayer :=
    @Element.Edit.add _ _ _ [] _ _ (by decide)
  have hswapped : Element.Edit .interface
      ⟨"interface", .ofList [("name", "org.example.Player")], [playMethod, volumeProperty]⟩
      ⟨"interface", .ofList [("name", "org.example.Player")], [volumeProperty, playMethod]⟩ :=
    @Element.Edit.swap _ _ _ [] _ _ _ (by decide)
  have hshuffled : Element.Edit .root documentedPlayer shuffledPlayer :=
    @Element.Edit.inside _ .interface _ _ [⟨"doc", .ofList [("name", "Players")], [playMethod]⟩]
      _ _ _ (by decide) rfl rfl hswapped
  have hplayer : Interface.ofRoot .native playerDocument =
      .error (.missingAttribute "arg" "track" "type") := rfl
  have hsame := (ofRoot_sees_recognised_content .native playerDocument documentedPlayer).1
    hdocumented.agree
  have hsame' := (ofRoot_sees_recognised_content .native documentedPlayer shuffledPlayer).2
    (.rel _ _ hshuffled)
  exact ⟨hdocumented.agree, .rel _ _ hshuffled, hplayer, hsame ▸ hplayer,
    hsame' ▸ hsame ▸ hplayer⟩

end Player

end Introspection
