import Introspection.Proofs.Interface.Parts
import Introspection.Proofs.Outline.Layout
import Introspection.Proofs.Outline.Values

/-!
# Outlines of nodes

The outline of a node is the text of a layout: its title, its fields, and the layouts of the nodes
below it. If no attribute of a document holds a line break, every layout of a node built from it
can be read back.
-/

namespace Introspection

open Layout Text

/-! ## Documents without line breaks -/

/-- No attribute of the element, or of any one below it, holds a line break. -/
inductive Element.SingleLine : Element → Prop
  | intro {e : Element} :
      (∀ entry ∈ e.attributes.entries, IsLine entry.2) →
      (∀ child ∈ e.children, SingleLine child) → SingleLine e

namespace Element.SingleLine

variable {e : Element}

theorem isLine_attribute (h : e.SingleLine) {name value : String}
    (hvalue : e.attribute? name = some value) : IsLine value := by
  obtain ⟨hattributes, -⟩ := h
  obtain ⟨before, after, hentries, -⟩ := List.lookup_eq_some_iff.1 hvalue
  exact hattributes (name, value) (hentries ▸ List.mem_append_right _ List.mem_cons_self)

theorem isLine_nodeName (h : e.SingleLine) : IsLine (nodeName e) := by
  unfold nodeName
  cases hname : e.attribute? "name" with
  | none => decide
  | some name => exact h.isLine_attribute hname

theorem children (h : e.SingleLine) : ∀ child ∈ e.children, child.SingleLine := by
  obtain ⟨-, hchildren⟩ := h
  exact hchildren

/-- What is built from the children of an element is built from such elements, too. -/
theorem exists_child_of_mapM_eq_ok (h : e.SingleLine) {α : Type} {tag : String}
    {f : Element → Except Error α} {as : List α} (has : (e.childrenNamed tag).mapM f = .ok as) :
    ∀ a ∈ as, ∃ child, child.SingleLine ∧ f child = .ok a := by
  intro a ha
  obtain ⟨child, hchild, hf⟩ := exists_of_mapM_eq_ok has ha
  exact ⟨child, h.children child (List.mem_of_mem_filter hchild), hf⟩

end Element.SingleLine

variable {mode : Mode} {owner : String} {e : Element} {kind : MemberKind}

/-! ## Annotations and args -/

def Annotation.layout (a : Annotation) : Layout :=
  titled "annotation" a.name a.owner (optional "value" a.value)

theorem Annotation.shows_layout {a : Annotation} (h : ofElement owner e = .ok a)
    (he : e.SingleLine) (howner : IsLine owner) : Shows a.outline a.layout := by
  obtain ⟨hname, rfl, hvalue⟩ := Annotation.ofElement_eq_ok_iff.1 h
  have hline : IsLine a.name := hname ▸ he.isLine_nodeName
  exact (shows_heading (by decide) hline howner).append
    (.optionalField (by decide) (he.isLine_attribute hvalue))

theorem showsBelow_annotations {as : List Annotation}
    (h : Annotation.ofChildren owner e = .ok as) (he : e.SingleLine) (howner : IsLine owner) :
    ShowsBelow (nested (as.map Annotation.outline)) (as.map Annotation.layout) := by
  refine .nested fun a ha ↦ ?_
  obtain ⟨child, hchild, hbuilt⟩ := he.exists_child_of_mapM_eq_ok h a ha
  exact Annotation.shows_layout hbuilt hchild howner

def Arg.layout (a : Arg) : Layout :=
  titled "arg" a.name a.owner
    ([field "type" a.type, field "direction" a.direction.text,
        field "resolved" a.resolved.outline] ++ a.annotations.map Annotation.layout)

theorem Arg.shows_layout {a : Arg} (h : ofElement mode owner e = .ok a) (he : e.SingleLine)
    (howner : IsLine owner) : Shows a.outline a.layout := by
  obtain ⟨hname, rfl, htype, -, -, hannotations⟩ := Arg.ofElement_eq_ok_iff.1 h
  have hline : IsLine a.name := hname ▸ he.isLine_nodeName
  have hword : IsLine a.direction.text := by cases a.direction <;> decide
  have hheading : Shows (heading "arg" a.name a.owner) (titled "arg" a.name a.owner []) :=
    shows_heading (by decide) hline howner
  have htype : ShowsBelow (fieldLine "type" a.type) [field "type" a.type] :=
    .fieldLine (by decide) (he.isLine_attribute htype)
  have hdirection : ShowsBelow (fieldLine "direction" a.direction.text)
      [field "direction" a.direction.text] :=
    .fieldLine (by decide) hword
  have hresolved : ShowsBelow (fieldLine "resolved" a.resolved.outline)
      [field "resolved" a.resolved.outline] :=
    .fieldLine (by decide) a.resolved.isLine_outline
  exact (((hheading.append htype).append hdirection).append hresolved).append
    (showsBelow_annotations hannotations he howner)

/-! ## Members -/

def Member.layout (m : Member kind) : Layout :=
  titled kind.text m.name m.owner
    (optional "signature in" (m.signature .input) ++
      optional "signature out" (m.signature .output) ++
      (if m.defaults.isEmpty then []
        else [field "defaults" (bracketed (m.defaults.map Value.outline))]) ++
      m.args.map Arg.layout ++ m.annotations.map Annotation.layout)

theorem Member.isLine_signature {m : Member kind} (h : ofElement kind mode owner e = .ok m)
    (he : e.SingleLine) (side : Direction) : IsLine (m.signature side) := by
  obtain ⟨-, -, -, hargs, -⟩ := Member.ofElement_eq_ok_iff.1 h
  refine .join (List.forall_mem_map.2 fun a ha ↦ ?_)
  obtain ⟨child, hchild, hbuilt⟩ :=
    he.exists_child_of_mapM_eq_ok hargs a (List.mem_of_mem_filter ha)
  exact hchild.isLine_attribute (Arg.ofElement_eq_ok_iff.1 hbuilt).2.2.1

theorem Member.isLine_defaults {m : Member kind} (h : ofElement kind mode owner e = .ok m) :
    IsLine (bracketed (m.defaults.map Value.outline)) := by
  obtain ⟨-, -, -, -, hdefaults⟩ := Member.ofElement_eq_ok_iff.1 h
  obtain ⟨types, -, hvalues⟩ := Signature.defaults_eq_ok_iff.1 hdefaults
  refine .bracketed (List.forall_mem_map.2 fun value hvalue ↦ ?_)
  obtain ⟨type, -, hdefault⟩ := exists_of_mapM_eq_ok hvalues hvalue
  exact Value.isLine_outline_of_default hdefault

theorem Member.shows_layout {m : Member kind} (h : ofElement kind mode owner e = .ok m)
    (he : e.SingleLine) (howner : IsLine owner) : Shows m.outline m.layout := by
  obtain ⟨hname, rfl, hannotations, hargs, -⟩ := Member.ofElement_eq_ok_iff.1 h
  have hline : IsLine m.name := hname ▸ he.isLine_nodeName
  have hkind : IsLabel kind.text := by cases kind <;> decide
  have hheading : Shows (heading kind.text m.name m.owner)
      (titled kind.text m.name m.owner []) :=
    shows_heading hkind hline howner
  have hinput : ShowsBelow (optionalField "signature in" (m.signature .input))
      (optional "signature in" (m.signature .input)) :=
    .optionalField (by decide) (isLine_signature h he .input)
  have houtput : ShowsBelow (optionalField "signature out" (m.signature .output))
      (optional "signature out" (m.signature .output)) :=
    .optionalField (by decide) (isLine_signature h he .output)
  have hdefaults : ShowsBelow
      (if m.defaults.isEmpty then ""
        else fieldLine "defaults" (bracketed (m.defaults.map Value.outline)))
      (if m.defaults.isEmpty then []
        else [field "defaults" (bracketed (m.defaults.map Value.outline))]) := by
    split
    · exact .nil
    · exact .fieldLine (by decide) (isLine_defaults h)
  have hargs : ShowsBelow (nested (m.args.map Arg.outline)) (m.args.map Arg.layout) := by
    refine .nested fun a ha ↦ ?_
    obtain ⟨child, hchild, hbuilt⟩ := he.exists_child_of_mapM_eq_ok hargs a ha
    exact Arg.shows_layout hbuilt hchild howner
  exact ((((hheading.append hinput).append houtput).append hdefaults).append hargs).append
    (showsBelow_annotations hannotations he howner)

/-! ## Properties -/

def Property.layout (p : Property) : Layout :=
  titled "property" p.name p.owner
    ([field "type" p.type] ++ [field "access" p.access] ++ flag "read" p.read ++
      flag "write" p.write ++ [field "resolved" p.resolved.outline] ++
      [field "value" p.value.outline] ++ p.annotations.map Annotation.layout)

theorem Property.shows_layout {p : Property} (h : ofElement owner e = .ok p) (he : e.SingleLine)
    (howner : IsLine owner) : Shows p.outline p.layout := by
  obtain ⟨hname, rfl, htype, haccess, -, -, -, -, hvalue, hannotations⟩ :=
    Property.ofElement_eq_ok_iff.1 h
  have hline : IsLine p.name := hname ▸ he.isLine_nodeName
  have hheading : Shows (heading "property" p.name p.owner)
      (titled "property" p.name p.owner []) :=
    shows_heading (by decide) hline howner
  have htype : ShowsBelow (fieldLine "type" p.type) [field "type" p.type] :=
    .fieldLine (by decide) (he.isLine_attribute htype)
  have haccess : ShowsBelow (fieldLine "access" p.access) [field "access" p.access] :=
    .fieldLine (by decide) (he.isLine_attribute haccess)
  have hread : ShowsBelow (flagField "read" p.read) (flag "read" p.read) :=
    .flagField (by decide) p.read
  have hwrite : ShowsBelow (flagField "write" p.write) (flag "write" p.write) :=
    .flagField (by decide) p.write
  have hresolved : ShowsBelow (fieldLine "resolved" p.resolved.outline)
      [field "resolved" p.resolved.outline] :=
    .fieldLine (by decide) p.resolved.isLine_outline
  have hdefault : ShowsBelow (fieldLine "value" p.value.outline)
      [field "value" p.value.outline] :=
    .fieldLine (by decide) (Value.isLine_outline_of_default hvalue)
  exact ((((((hheading.append htype).append haccess).append hread).append hwrite).append
    hresolved).append hdefault).append (showsBelow_annotations hannotations he howner)

/-! ## Interfaces -/

namespace Interface

mutual

def layout : Interface → Layout
  | ⟨name, owner, annotations, interfaces, methods, properties, signals⟩ =>
    titled "interface" name owner
      (annotations.map Annotation.layout ++ layouts interfaces ++ methods.map Member.layout ++
        properties.map Property.layout ++ signals.map Member.layout)

def layouts : List Interface → List Layout
  | [] => []
  | i :: is => i.layout :: layouts is

end

theorem layouts_eq_map (is : List Interface) : layouts is = is.map layout := by
  induction is with
  | nil => rfl
  | cons i is ih => rw [layouts, ih, List.map_cons]

theorem outlines_eq_map (is : List Interface) : outlines is = is.map outline := by
  induction is with
  | nil => rfl
  | cons i is ih => rw [outlines, ih, List.map_cons]

theorem layout_eq (i : Interface) :
    i.layout = titled "interface" i.name i.owner
      (i.annotations.map Annotation.layout ++ i.interfaces.map layout ++
        i.methods.map Member.layout ++ i.properties.map Property.layout ++
        i.signals.map Member.layout) := by
  cases i
  rw [layout, layouts_eq_map]

theorem outline_eq (i : Interface) :
    i.outline = heading "interface" i.name i.owner ++
      nested (i.annotations.map Annotation.outline) ++ nested (i.interfaces.map outline) ++
      nested (i.methods.map Member.outline) ++ nested (i.properties.map Property.outline) ++
      nested (i.signals.map Member.outline) := by
  cases i
  rw [outline, outlines_eq_map]

theorem shows_layout {i : Interface} (h : ofElement mode e = .ok i) (he : e.SingleLine) :
    Shows i.outline i.layout := by
  induction i generalizing e with
  | interface i ih =>
    obtain ⟨hname, howner, hannotations, hinterfaces, hmembers, hproperties⟩ :=
      ofElement_eq_ok_iff.1 h
    have hline : IsLine i.name := hname ▸ he.isLine_nodeName
    have hnested : ShowsBelow (nested (i.interfaces.map outline)) (i.interfaces.map layout) := by
      refine .nested fun j hj ↦ ?_
      obtain ⟨child, hchild, hbuilt⟩ := he.exists_child_of_mapM_eq_ok hinterfaces j hj
      exact ih j hj hbuilt hchild
    have hmember (kind : MemberKind) : ShowsBelow
        (nested ((i.members kind).map Member.outline)) ((i.members kind).map Member.layout) := by
      refine .nested fun m hm ↦ ?_
      obtain ⟨child, hchild, hbuilt⟩ := he.exists_child_of_mapM_eq_ok (hmembers kind) m hm
      exact Member.shows_layout hbuilt hchild hline
    have hproperty : ShowsBelow
        (nested (i.properties.map Property.outline)) (i.properties.map Property.layout) := by
      refine .nested fun p hp ↦ ?_
      obtain ⟨child, hchild, hbuilt⟩ := he.exists_child_of_mapM_eq_ok hproperties p hp
      exact Property.shows_layout hbuilt hchild hline
    have hheading : Shows (heading "interface" i.name i.owner)
        (titled "interface" i.name i.owner []) :=
      shows_heading (by decide) hline (howner ▸ hline)
    rw [outline_eq, layout_eq]
    exact ((((hheading.append (showsBelow_annotations hannotations he hline)).append
      hnested).append (hmember .method)).append hproperty).append (hmember .signal)

end Interface

end Introspection
