import Introspection.Proofs.Document.Fields
import Introspection.Proofs.Markup.Prolog

/-!
# Loading documents

A tree of the format is read back from every document that was written for it, whatever tells the
markup of the document. Foreign elements may stand anywhere between its elements; they are dropped
with all that they hold, even with elements of the format.
-/

namespace Introspection

/-! ## What is read of the content of an element -/

namespace Child

theorem trimmed_of_isBlankText {s : String} (h : Markup.IsBlankText s.toList) : trimmed s = "" := by
  have hdrop : s.toList.dropWhile Markup.isBlank = [] := List.dropWhile_eq_nil_iff.2 h
  rw [trimmed, hdrop]
  rfl

theorem ofNode?_text {s : String} (h : Markup.IsBlankText s.toList) :
    ofNode? (.text s) = some ignored := by
  rw [ofNode?, trimmed_of_isBlankText h]
  rfl

theorem ofNode?_foreign {name : Markup.Name} (h : ¬ IsTag name.base)
    (attributes : List (Markup.Name × String)) (content : List Markup) :
    ofNode? (.element name attributes content) = some ignored := by
  have hfind : tags.find? (· == name.base) = none := by
    refine List.find?_eq_none.2 fun tag htag heq ↦ h ?_
    rw [← eq_of_beq heq]
    exact isTag_iff_mem_tags.2 htag
  rw [ofNode?, hfind]

theorem ofNode?_element {name : Markup.Name} (h : IsTag name.base)
    {attributes : List (Markup.Name × String)} {content : List Markup} {fields : Fields}
    {children : List Child} (hfields : Fields.ofAttributes? attributes = some fields)
    (hchildren : ofContent? content = some children) :
    ofNode? (.element name attributes content) = some (known name.base fields children) := by
  have hfind : tags.find? (· == name.base) = some name.base := by
    cases hfind : tags.find? (· == name.base) with
    | none =>
      exact absurd (List.find?_eq_none.1 hfind _ (isTag_iff_mem_tags.1 h)) (by simp)
    | some tag =>
      have heq := List.find?_some hfind
      rw [eq_of_beq heq]
  rw [ofNode?, hfind]
  simp only [hfields, hchildren]
  rfl

theorem toElement?_known {e : Element} {fields : Fields} {children : List Child}
    (hfields : fields.attributes = e.attributes) (hchildren : toElements children = e.children) :
    (known e.tag fields children).toElement? = some e := by
  rw [toElement?, hfields, hchildren]
  cases e
  rfl

theorem exists_ofContent?_ignored {node : Markup} {nodes : List Markup} {elements : List Element}
    (hnode : ofNode? node = some ignored)
    (h : ∃ children, ofContent? nodes = some children ∧ toElements children = elements) :
    ∃ children, ofContent? (node :: nodes) = some children ∧ toElements children = elements := by
  obtain ⟨children, hchildren, helements⟩ := h
  refine ⟨ignored :: children, ?_, helements⟩
  rw [ofContent?, hnode, hchildren]
  rfl

/-- What is read of some nodes makes up the elements that they represent. -/
theorem exists_ofContent?_of_represents {nodes : List Markup} {elements : List Element}
    (h : Element.Represents nodes elements) (hknown : ∀ e ∈ elements, e.IsKnown) :
    ∃ children, ofContent? nodes = some children ∧ toElements children = elements := by
  induction h with
  | nil => exact ⟨[], rfl, rfl⟩
  | blank hs _ ih => exact exists_ofContent?_ignored (ofNode?_text hs) (ih hknown)
  | foreign hname _ ih => exact exists_ofContent?_ignored (ofNode?_foreign hname _ _) (ih hknown)
  | @element name _ _ _ e _ hname hattributes _ _ ihcontent ihnodes =>
    obtain ⟨⟨htag, hnames, hbelow⟩, hrest⟩ := List.forall_mem_cons.1 hknown
    obtain ⟨fields, hfields, heq⟩ := Fields.exists_ofAttributes?_of_represents hattributes hnames
    obtain ⟨below, hcontent, hinner⟩ := ihcontent hbelow
    obtain ⟨children, hchildren, helements⟩ := ihnodes hrest
    refine ⟨known name.base fields below :: children, ?_, ?_⟩
    · rw [ofContent?, ofNode?_element (hname ▸ htag) hfields hcontent, hchildren]
      rfl
    · rw [toElements, hname, toElement?_known heq hinner, helements]
      rfl

end Child

/-! ## Loading -/

theorem Markup.isReader_read : IsReader WritesDocument read :=
  fun _ root h ↦ ⟨root, read_of_writesDocument h, .refl [root]⟩

namespace Element

variable {e : Element}

theorem ofDocument?_of_represents {read : List Char → Option Markup} {document : List Char}
    {root : Markup} (htag : e.tag = "node") (hknown : e.IsKnown) (hread : read document = some root)
    (h : Represents [root] [e]) : ofDocument? read document = some e := by
  obtain ⟨-, hnames, hbelow⟩ := hknown
  cases h with
  | blank _ h => cases h
  | foreign _ h => cases h
  | element hname hattributes hcontent =>
    obtain ⟨fields, hfields, heq⟩ := Fields.exists_ofAttributes?_of_represents hattributes hnames
    obtain ⟨children, hchildren, helements⟩ := Child.exists_ofContent?_of_represents hcontent hbelow
    rw [ofDocument?, hread]
    simp only [hfields, hchildren, Option.bind_eq_bind, Option.bind_some]
    rw [← htag, Child.toElement?_known heq helements]

/-- A document is loaded as the tree that it was written for, by every reader that reports what was
written, and so is every text that the grammar of documents allows. -/
theorem ofDocument?_of_isWrittenIn (htag : e.tag = "node") (hknown : e.IsKnown) :
    (∀ (Writes : List Char → Markup → Prop) (read : List Char → Option Markup)
        (document : List Char), Markup.IsReader Writes read → e.IsWrittenIn Writes document →
      ofDocument? read document = some e) ∧
    ∀ text : String, e.IsWrittenIn Markup.WritesDocument text.toList → ofText? text = some e := by
  constructor
  · rintro Writes read document hreader ⟨root, hroot, h⟩
    obtain ⟨reported, hread, hreports⟩ := hreader document root hroot
    exact ofDocument?_of_represents htag hknown hread (h.of_reports hreports)
  · rintro text ⟨root, hroot, h⟩
    exact ofDocument?_of_represents htag hknown (Markup.read_of_writesDocument hroot) h

/-! ## A document with every tag and attribute -/

section Clock

/-- The foreign element holds an element of the format. -/
def clockText : String :=
  "<!DOCTYPE node [<!-- don't -->]><node><interface name='org.example.Clock'>" ++
    "<doc:doc xmlns:doc='urn:doc'><arg/></doc:doc>" ++
    "<method name='Set'><arg type='u' direction='in'/></method> " ++
    "<signal name='Tick'><annotation value='&lt;'/></signal>" ++
    "<property type='u' access='read'/></interface></node>"

def clock : Element :=
  ⟨"node", .empty,
    [⟨"interface", .ofList [("name", "org.example.Clock")],
      [⟨"method", .ofList [("name", "Set")],
          [⟨"arg", .ofList [("type", "u"), ("direction", "in")], []⟩]⟩,
        ⟨"signal", .ofList [("name", "Tick")],
          [⟨"annotation", .ofList [("value", "<")], []⟩]⟩,
        ⟨"property", .ofList [("type", "u"), ("access", "read")], []⟩]⟩]⟩

theorem isKnown_clock : clock.IsKnown := by
  have harg : IsKnown ⟨"arg", .ofList [("type", "u"), ("direction", "in")], []⟩ :=
    .intro (by decide) (by decide) nofun
  have hannotation : IsKnown ⟨"annotation", .ofList [("value", "<")], []⟩ :=
    .intro (by decide) (by decide) nofun
  refine .intro (by decide) nofun (List.forall_mem_singleton.2 ?_)
  refine .intro (by decide) (by decide) ?_
  refine List.forall_mem_cons.2 ⟨?_, List.forall_mem_cons.2 ⟨?_, List.forall_mem_singleton.2 ?_⟩⟩
  · exact .intro (by decide) (by decide) (List.forall_mem_singleton.2 harg)
  · exact .intro (by decide) (by decide) (List.forall_mem_singleton.2 hannotation)
  · exact .intro (by decide) (by decide) nofun

open Markup in
theorem isWrittenIn_clock : clock.IsWrittenIn WritesDocument clockText.toList := by
  have htag {tag : String} (h : IsTag tag) : (⟨none, tag⟩ : Name).IsLegal :=
    (isLegal_of_known (.inl h)).1
  have hattribute {name value : String} {text : List Char} {attributes : List (Name × String)}
      (hname : IsAttribute name) (hvalue : IsTextWithout ['\'', '<', '&'] value.toList)
      (h : WritesAttributes text attributes) :
      WritesAttributes (' ' :: (name.toList ++ '=' :: '\'' :: (value.toList ++ '\'' :: text)))
        ((⟨none, name⟩, value) :: attributes) :=
    .cons_space (isLegal_of_known (.inr hname)).1 (by decide) (.self hvalue) h
  have hcomment : IsComment (['<', '!', '-', '-'] ++ (" don't ".toList ++ ['-', '-', '>'])) :=
    .of_isTextWithout (by decide)
  have hdoctype : EndsDoctype false (" node ".toList ++ '[' :: (_ ++ [']', '>'])) :=
    .append (by decide) (.openSubset (.comment hcomment (.closeSubset .close)))
  -- The foreign element binds the scope that it uses.
  have hdoc : (⟨none, "doc"⟩ : Name).IsLegal := Name.isLegal_bare rfl rfl
  have hxmlns : (⟨none, "xmlns"⟩ : Name).IsLegal := Name.isLegal_bare rfl rfl
  have hscope : WritesValue '\'' _ "urn:doc".toList := .self (by decide)
  have hbinding : WritesAttributes _ [(⟨some "xmlns", "doc"⟩, "urn:doc")] :=
    .cons_space (.scoped hxmlns hdoc) (by decide) hscope .nil
  have hstart : WritesStart [] "<doc:doc xmlns:doc='urn:doc'".toList ⟨some "doc", "doc"⟩ _ :=
    ⟨⟨_, [], rfl, hbinding, nofun⟩, .scoped hdoc hdoc, by decide, by decide, by decide, by decide⟩
  have hforeign : WritesContent ["doc"] [] _ [.element ⟨none, "arg"⟩ [] []] :=
    AreBare.writesContent (nofun : AreBare []) (htag (by decide)) .nil .nil .closed .nil
  -- The content of the interface, from its last element to its first one.
  have hproperty : WritesContent [] [] _
      [.element ⟨none, "property"⟩ [(⟨none, "type"⟩, "u"), (⟨none, "access"⟩, "read")] []] :=
    AreBare.writesContent (by decide) (htag (by decide))
      (hattribute (by decide) (by decide) (hattribute (by decide) (by decide) .nil)) (by decide)
      .closed .nil
  have hless : WritesValue '\'' _ "<".toList := .reference .lt .nil
  have hannotation : WritesContent [] [] _
      [.element ⟨none, "annotation"⟩ [(⟨none, "value"⟩, "<")] []] :=
    AreBare.writesContent (by decide) (htag (by decide))
      (.cons_space (isLegal_of_known (.inr (by decide))).1 (by decide) hless .nil) (by decide)
      .closed .nil
  have hsignal : WritesContent [] [' '] _
      [.text " ", .element ⟨none, "signal"⟩ [(⟨none, "name"⟩, "Tick")] _, _] :=
    AreBare.writesContent (by decide) (htag (by decide)) (hattribute (by decide) (by decide) .nil)
      (by decide) (.opened hannotation ⟨[], rfl, nofun⟩) hproperty
  have harg : WritesContent [] [] _
      [.element ⟨none, "arg"⟩ [(⟨none, "type"⟩, "u"), (⟨none, "direction"⟩, "in")] []] :=
    AreBare.writesContent (by decide) (htag (by decide))
      (hattribute (by decide) (by decide) (hattribute (by decide) (by decide) .nil)) (by decide)
      .closed .nil
  have hmethod : WritesContent [] [] _
      [.element ⟨none, "method"⟩ [(⟨none, "name"⟩, "Set")] _, _, _, _] :=
    AreBare.writesContent (by decide) (htag (by decide)) (hattribute (by decide) (by decide) .nil)
      (by decide) (.opened harg ⟨[], rfl, nofun⟩)
      (.char (by decide) (by decide) (by decide) hsignal)
  have hmembers : WritesContent [] [] _ [.element ⟨some "doc", "doc"⟩ [] _, _, _, _, _] :=
    .element hstart (.opened hforeign ⟨[], rfl, nofun⟩) hmethod
  have hinterface : WritesContent [] [] _
      [.element ⟨none, "interface"⟩ [(⟨none, "name"⟩, "org.example.Clock")] _] :=
    AreBare.writesContent (by decide) (htag (by decide)) (hattribute (by decide) (by decide) .nil)
      (by decide) (.opened hmembers ⟨[], rfl, nofun⟩) .nil
  have hroot : WritesStart [] _ ⟨none, "node"⟩ [] :=
    AreBare.writesStart (nofun : AreBare []) (htag (by decide)) .nil .nil
  refine ⟨_, ⟨[], [], _, _, _, [], _, _, _, ?_, .inl rfl, .inl rfl, .doctype hdoctype .nil, hroot,
    .opened hinterface ⟨[], rfl, nofun⟩, rfl⟩, ?_⟩
  · have happend {s s' : String} {text text' : List Char} (h : s.toList = text)
        (h' : s'.toList = text') : (s ++ s').toList = text ++ text' := by
      rw [String.toList_append, h, h']
    have htext : clockText.toList = _ :=
      happend (happend (happend (happend String.toList_ofList String.toList_ofList)
        String.toList_ofList) String.toList_ofList) String.toList_ofList
    rw [htext]
    decide +kernel
  · refine .element rfl ⟨[], .refl _, nofun⟩ (.element rfl ⟨[], .refl _, nofun⟩ ?_ .nil) .nil
    refine .foreign (by decide) (.element rfl ⟨[], .refl _, nofun⟩ ?_ ?_)
    · exact .element rfl ⟨[], by decide, nofun⟩ .nil .nil
    · refine .blank isBlankText_space (.element rfl ⟨[], .refl _, nofun⟩ ?_ ?_)
      · exact .element rfl ⟨[], .refl _, nofun⟩ .nil .nil
      · exact .element rfl ⟨[], by decide, nofun⟩ .nil .nil

theorem ofDocument?_of_isWrittenIn_clock :
    Markup.IsReader Markup.WritesDocument Markup.read ∧ clock.IsKnown ∧
      clock.IsWrittenIn Markup.WritesDocument clockText.toList ∧
      ofDocument? Markup.read clockText.toList = some clock ∧ ofText? clockText = some clock := by
  obtain ⟨hdocument, htext⟩ := ofDocument?_of_isWrittenIn (e := clock) rfl isKnown_clock
  exact ⟨Markup.isReader_read, isKnown_clock, isWrittenIn_clock,
    hdocument _ _ _ Markup.isReader_read isWrittenIn_clock, htext _ isWrittenIn_clock⟩

end Clock

end Element

end Introspection
