import Introspection.Proofs.Outline.Nodes

/-!
# Outlines are faithful

What an outline leaves out is known from the rest: the value type of a node is that of its
signature, and its defaults are those of its type. So if no attribute of a document holds a line
break, an interface is known from its outline, with everything in it.
-/

namespace Introspection

open Layout

variable {mode : Mode} {owner owner' : String} {e e' : Element} {kind : MemberKind}

/-! ## Lists of layouts -/

/-- Built lists with the same layouts are equal if this holds of built items. -/
theorem eq_of_map_layout_eq {α : Type} {layout : α → Layout} {f f' : Element → Except Error α}
    {es es' : List Element} {as as' : List α} (has : es.mapM f = .ok as)
    (has' : es'.mapM f' = .ok as') (h : as.map layout = as'.map layout)
    (hf : ∀ {e e' a a'}, f e = .ok a → f' e' = .ok a' → layout a = layout a' → a = a') :
    as = as' := by
  refine eq_of_map_eq_map h fun a ha a' ha' hlayout ↦ ?_
  obtain ⟨e, -, he⟩ := exists_of_mapM_eq_ok has ha
  obtain ⟨e', -, he'⟩ := exists_of_mapM_eq_ok has' ha'
  exact hf he he' hlayout

/-! ## Annotations and args -/

theorem Annotation.layout_injective : Function.Injective layout := by
  intro a a' h
  obtain ⟨hname, howner, hvalue⟩ := titled_inj h
  cases a
  cases a'
  rw [mk.injEq]
  exact ⟨hname, howner, optional_inj hvalue⟩

theorem titledBy_annotations (w : String) (as : List Annotation) :
    titledBy w (as.map Annotation.layout) =
      if "annotation" = w then as.map Annotation.layout else [] :=
  titledBy_map (by decide) (fun _ ↦ ⟨_, _, _, rfl⟩) w as

theorem Direction.text_injective : Function.Injective Direction.text := by
  intro d d' h
  exact Option.some.inj (by rw [← ofText?_text d, h, ofText?_text])

theorem Arg.eq_of_layout_eq {a a' : Arg} (h : ofElement mode owner e = .ok a)
    (h' : ofElement mode owner' e' = .ok a') (hlayout : a.layout = a'.layout) : a = a' := by
  obtain ⟨-, -, -, -, hresolved, -⟩ := Arg.ofElement_eq_ok_iff.1 h
  obtain ⟨-, -, -, -, hresolved', -⟩ := Arg.ofElement_eq_ok_iff.1 h'
  obtain ⟨hname, howner, hbelow⟩ := titled_inj hlayout
  obtain ⟨hfirst, hbelow⟩ := List.cons.inj hbelow
  obtain ⟨hsecond, hbelow⟩ := List.cons.inj hbelow
  obtain ⟨-, hlast⟩ := List.cons.inj hbelow
  have htype : a.type = a'.type := field_inj hfirst
  have hdirection : a.direction = a'.direction := Direction.text_injective (field_inj hsecond)
  have hannotations : a.annotations = a'.annotations :=
    List.map_injective_iff.2 Annotation.layout_injective hlast
  rw [htype] at hresolved
  have htypes : a.resolved = a'.resolved := Except.ok.inj (hresolved.symm.trans hresolved')
  cases a
  cases a'
  rw [Arg.mk.injEq]
  exact ⟨hname, howner, hannotations, htype, hdirection, htypes⟩

theorem titledBy_args (w : String) (as : List Arg) :
    titledBy w (as.map Arg.layout) = if "arg" = w then as.map Arg.layout else [] :=
  titledBy_map (by decide) (fun _ ↦ ⟨_, _, _, rfl⟩) w as

/-! ## Members and properties -/

theorem Member.eq_of_layout_eq {m m' : Member kind} (h : ofElement kind mode owner e = .ok m)
    (h' : ofElement kind mode owner' e' = .ok m') (hlayout : m.layout = m'.layout) : m = m' := by
  obtain ⟨-, -, -, hargs, hdefaults⟩ := Member.ofElement_eq_ok_iff.1 h
  obtain ⟨-, -, -, hargs', hdefaults'⟩ := Member.ofElement_eq_ok_iff.1 h'
  obtain ⟨hname, howner, hbelow⟩ := titled_inj hlayout
  have hdropped (w : String) (b : Bool) (l : String) :
      titledBy w (if b then [] else [field "defaults" l]) = [] := by
    split <;> rfl
  -- The fields can be dropped: the signatures are joined from the args, and so are the defaults.
  have htitled (w : String) := congrArg (titledBy w) hbelow
  simp only [titledBy_append, titledBy_optional, hdropped, titledBy_args, titledBy_annotations]
    at htitled
  have harg : m.args = m'.args :=
    eq_of_map_layout_eq hargs hargs' (by simpa using htitled "arg") Arg.eq_of_layout_eq
  have hannotation : m.annotations = m'.annotations :=
    List.map_injective_iff.2 Annotation.layout_injective (by simpa using htitled "annotation")
  have hdefault : m.defaults = m'.defaults := by
    have hsignature : m.signature .input = m'.signature .input := by
      rw [signature, argsOn, harg]
      rfl
    rw [hsignature] at hdefaults
    exact Except.ok.inj (hdefaults.symm.trans hdefaults')
  cases m
  cases m'
  rw [Member.mk.injEq]
  exact ⟨hname, howner, hannotation, harg, hdefault⟩

theorem Property.eq_of_layout_eq {p p' : Property} (h : ofElement owner e = .ok p)
    (h' : ofElement owner' e' = .ok p') (hlayout : p.layout = p'.layout) : p = p' := by
  obtain ⟨-, -, -, -, hread, hwrite, -, hresolved, hvalue, -⟩ := Property.ofElement_eq_ok_iff.1 h
  obtain ⟨-, -, -, -, hread', hwrite', -, hresolved', hvalue', -⟩ :=
    Property.ofElement_eq_ok_iff.1 h'
  obtain ⟨hname, howner, hbelow⟩ := titled_inj hlayout
  have htype : p.type = p'.type := field_inj (List.cons.inj hbelow).1
  have haccess : p.access = p'.access := field_inj (List.cons.inj (List.cons.inj hbelow).2).1
  have hannotation : p.annotations = p'.annotations := by
    have htitled := congrArg (titledBy "annotation") hbelow
    simp only [titledBy_append, titledBy_field, titledBy_flag, titledBy_annotations] at htitled
    exact List.map_injective_iff.2 Annotation.layout_injective (by simpa using htitled)
  rw [htype] at hresolved
  have htypes : p.resolved = p'.resolved := Except.ok.inj (hresolved.symm.trans hresolved')
  rw [htypes] at hvalue
  have hvalues : p.value = p'.value := Except.ok.inj (hvalue.symm.trans hvalue')
  rw [haccess] at hread hwrite
  have hreads : p.read = p'.read := hread.trans hread'.symm
  have hwrites : p.write = p'.write := hwrite.trans hwrite'.symm
  cases p
  cases p'
  rw [Property.mk.injEq]
  exact ⟨hname, howner, hannotation, htype, htypes, hvalues, haccess, hreads, hwrites⟩

/-! ## Interfaces -/

namespace Interface

theorem titledBy_interfaces (w : String) (is : List Interface) :
    titledBy w (is.map layout) = if "interface" = w then is.map layout else [] :=
  titledBy_map (by decide) (fun i ↦ ⟨_, _, _, i.layout_eq⟩) w is

theorem titledBy_members (w : String) (ms : List (Member kind)) :
    titledBy w (ms.map Member.layout) = if kind.text = w then ms.map Member.layout else [] :=
  titledBy_map (by cases kind <;> decide) (fun _ ↦ ⟨_, _, _, rfl⟩) w ms

theorem titledBy_properties (w : String) (ps : List Property) :
    titledBy w (ps.map Property.layout) =
      if "property" = w then ps.map Property.layout else [] :=
  titledBy_map (by decide) (fun _ ↦ ⟨_, _, _, rfl⟩) w ps

theorem eq_of_layout_eq {i j : Interface} (hi : ofElement mode e = .ok i)
    (hj : ofElement mode e' = .ok j) (hlayout : i.layout = j.layout) : i = j := by
  induction i generalizing j e e' with
  | interface i ih =>
    obtain ⟨-, -, -, hinterfaces, hmembers, hproperties⟩ := ofElement_eq_ok_iff.1 hi
    obtain ⟨-, -, -, hinterfaces', hmembers', hproperties'⟩ := ofElement_eq_ok_iff.1 hj
    rw [layout_eq, layout_eq] at hlayout
    obtain ⟨hname, howner, hbelow⟩ := titled_inj hlayout
    -- Children of different kinds have different titles, so each kind can be taken by itself.
    have htitled (w : String) := congrArg (titledBy w) hbelow
    simp only [titledBy_append, titledBy_annotations, titledBy_interfaces, titledBy_members,
      titledBy_properties, MemberKind.text] at htitled
    have hannotation : i.annotations = j.annotations :=
      List.map_injective_iff.2 Annotation.layout_injective (by simpa using htitled "annotation")
    have hinterface : i.interfaces = j.interfaces := by
      refine eq_of_map_eq_map (by simpa using htitled "interface") fun k hk k' hk' heq ↦ ?_
      obtain ⟨e, -, he⟩ := exists_of_mapM_eq_ok hinterfaces hk
      obtain ⟨e', -, he'⟩ := exists_of_mapM_eq_ok hinterfaces' hk'
      exact ih k hk he he' heq
    have hmethod : i.methods = j.methods :=
      eq_of_map_layout_eq (hmembers .method) (hmembers' .method) (by simpa using htitled "method")
        Member.eq_of_layout_eq
    have hproperty : i.properties = j.properties :=
      eq_of_map_layout_eq hproperties hproperties' (by simpa using htitled "property")
        Property.eq_of_layout_eq
    have hsignal : i.signals = j.signals :=
      eq_of_map_layout_eq (hmembers .signal) (hmembers' .signal) (by simpa using htitled "signal")
        Member.eq_of_layout_eq
    cases i
    cases j
    rw [mk.injEq]
    exact ⟨hname, howner, hannotation, hinterface, hmethod, hproperty, hsignal⟩

end Interface

/-- Two interfaces that are built from documents without line breaks, in one mode and at any
places in them, are equal if their outlines are. -/
theorem Interface.eq_of_outline_eq {mode : Mode} {root root' : Element}
    {forest forest' : List Interface} {i j : Interface} (h : ofRoot mode root = .ok forest)
    (h' : ofRoot mode root' = .ok forest') (hroot : root.SingleLine) (hroot' : root'.SingleLine)
    (hi : Within forest i) (hj : Within forest' j) (houtline : i.outline = j.outline) : i = j := by
  obtain ⟨e, he, hbuilt⟩ :=
    exists_ofElement_of_within_of_forall hroot.children (fun _ he ↦ he.children) h hi
  obtain ⟨e', he', hbuilt'⟩ :=
    exists_ofElement_of_within_of_forall hroot'.children (fun _ he ↦ he.children) h' hj
  have hlayout : i.layout = j.layout :=
    (shows_layout hbuilt he).inj (shows_layout hbuilt' he') houtline
  exact eq_of_layout_eq hbuilt hbuilt' hlayout

section Lock

/-- A lock within a house. -/
def houseDocument : Element :=
  ⟨"node", .empty,
    [⟨"interface", .ofList [("name", "org.example.House")],
      [⟨"interface", .ofList [("name", "org.example.Lock")],
        [⟨"method", .ofList [("name", "Turn")],
          [⟨"arg", .ofList [("name", "times"), ("type", "u")], []⟩]⟩,
        ⟨"property", .ofList [("access", "read"), ("name", "Open"), ("type", "b")], []⟩]⟩]⟩]⟩

/-- The same lock on its own, with its property first and a remark about it. -/
def lockDocument : Element :=
  ⟨"node", .empty,
    [⟨"interface", .ofList [("name", "org.example.Lock")],
      [⟨"property", .ofList [("access", "read"), ("name", "Open"), ("type", "b")], []⟩,
      ⟨"remark", .empty, []⟩,
      ⟨"method", .ofList [("name", "Turn")],
        [⟨"arg", .ofList [("direction", "in"), ("name", "times"), ("type", "u")], []⟩]⟩]⟩]⟩

def turn : Method :=
  ⟨"Turn", "org.example.Lock", [],
    [⟨"times", "org.example.Lock", [], "u", .input, .integer .uint32⟩], [.integer 0]⟩

def isOpen : Property :=
  ⟨"Open", "org.example.Lock", [], "b", .boolean, .boolean false, "read", true, false⟩

def houseLock : Interface := ⟨"org.example.Lock", "org.example.Lock", [], [], [turn], [isOpen], []⟩

def house : Interface := ⟨"org.example.House", "org.example.House", [], [houseLock], [], [], []⟩

def spareLock : Interface := ⟨"org.example.Lock", "org.example.Lock", [], [], [turn], [isOpen], []⟩

theorem singleLine_houseDocument : houseDocument.SingleLine := by
  refine .intro (by decide) (List.forall_mem_singleton.2 ?_)
  refine .intro (by decide) (List.forall_mem_singleton.2 ?_)
  refine .intro (by decide) (List.forall_mem_cons.2 ⟨?_, List.forall_mem_singleton.2 ?_⟩)
  · exact .intro (by decide) (List.forall_mem_singleton.2 (.intro (by decide) nofun))
  · exact .intro (by decide) nofun

theorem singleLine_lockDocument : lockDocument.SingleLine := by
  refine .intro (by decide) (List.forall_mem_singleton.2 ?_)
  refine .intro (by decide) (List.forall_mem_cons.2 ⟨?_, List.forall_mem_cons.2 ⟨?_, ?_⟩⟩)
  · exact .intro (by decide) nofun
  · exact .intro nofun nofun
  · refine List.forall_mem_singleton.2 (.intro (by decide) ?_)
    exact List.forall_mem_singleton.2 (.intro (by decide) nofun)

theorem Interface.eq_of_outline_eq_lock :
    ofRoot .native houseDocument = .ok [house] ∧ ofRoot .native lockDocument = .ok [spareLock] ∧
      Within [house] houseLock ∧ Within [spareLock] spareLock ∧
      houseLock.outline = spareLock.outline ∧ houseLock = spareLock := by
  have hhouse : ofRoot .native houseDocument = .ok [house] := rfl
  have hlock : ofRoot .native lockDocument = .ok [spareLock] := rfl
  have hnested : Within [house] houseLock :=
    .nested List.mem_cons_self (.direct List.mem_cons_self)
  have hdirect : Within [spareLock] spareLock := .direct List.mem_cons_self
  have houtline : houseLock.outline = spareLock.outline := rfl
  exact ⟨hhouse, hlock, hnested, hdirect, houtline,
    eq_of_outline_eq hhouse hlock singleLine_houseDocument singleLine_lockDocument hnested hdirect
      houtline⟩

end Lock

/-- With a line break in its value, one annotation passes for two. -/
example :
    (⟨"x", "x", [⟨"a", "x", "1\nannotation b\n  interface_name: x"⟩], [], [], [], []⟩ :
        Interface).outline =
      (⟨"x", "x", [⟨"a", "x", "1"⟩, ⟨"b", "x", ""⟩], [], [], [], []⟩ : Interface).outline := by
  decide +kernel

end Introspection
