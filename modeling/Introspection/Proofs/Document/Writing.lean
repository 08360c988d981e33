import Introspection.Document
import Introspection.Proofs.Markup.Tokens
import Mathlib.Data.List.Nodup

/-!
# Documents of elements

A document is written for a tree of elements if its elements of the tags of the format are those of
the tree. Which texts are documents, and how they are read, are left open here: a reader only has to
report the elements that were written. There are many documents for a tree, and at least one if the
values of its attributes are text.
-/

namespace Introspection

theorem Attributes.nodup_names (attributes : Attributes) :
    (attributes.entries.map Prod.fst).Nodup :=
  List.pairwise_map.2 (attributes.sorted.imp Std.ne_of_lt)

/-! ## The format -/

/-- The tags of the format. -/
def IsTag (tag : String) : Prop :=
  tag ∈ ["node", "interface", "method", "signal", "property", "arg", "annotation"]

/-- The names of the attributes of the format. -/
def IsAttribute (name : String) : Prop :=
  name ∈ ["name", "type", "direction", "access", "value"]

instance : DecidablePred IsTag :=
  fun tag ↦ inferInstanceAs (Decidable (tag ∈ _))

instance : DecidablePred IsAttribute :=
  fun name ↦ inferInstanceAs (Decidable (name ∈ _))

namespace Element

/-- A tree of elements of the format. -/
inductive IsKnown : Element → Prop
  | intro {e : Element} : IsTag e.tag → (∀ a ∈ e.attributes.entries, IsAttribute a.1) →
      (∀ child ∈ e.children, IsKnown child) → IsKnown e

/-! ## Elements and the nodes that represent them -/

/-- Attributes are given in any order, and among attributes of other names. -/
def RepresentsAttributes (given : List (Markup.Name × String)) (attributes : Attributes) : Prop :=
  ∃ others, (given.map fun a ↦ (a.1.base, a.2)).Perm (attributes.entries ++ others) ∧
    ∀ a ∈ others, ¬ IsAttribute a.1

/-- Elements are represented in their order, with blanks and foreign elements in between. -/
inductive Represents : List Markup → List Element → Prop
  | nil : Represents [] []
  | blank {s : String} {nodes : List Markup} {elements : List Element} :
      Markup.IsBlankText s.toList → Represents nodes elements →
      Represents (.text s :: nodes) elements
  | foreign {name : Markup.Name} {attributes : List (Markup.Name × String)}
      {content nodes : List Markup} {elements : List Element} : ¬ IsTag name.base →
      Represents nodes elements → Represents (.element name attributes content :: nodes) elements
  | element {name : Markup.Name} {attributes : List (Markup.Name × String)}
      {content nodes : List Markup} {e : Element} {elements : List Element} : name.base = e.tag →
      RepresentsAttributes attributes e.attributes → Represents content e.children →
      Represents nodes elements →
      Represents (.element name attributes content :: nodes) (e :: elements)

/-- The document is written for the element, where `Writes` tells which texts are documents and
which roots they have. -/
def IsWrittenIn (Writes : List Char → Markup → Prop) (e : Element) (document : List Char) : Prop :=
  ∃ root, Writes document root ∧ Represents [root] [e]

end Element

/-! ## Readers -/

namespace Markup

/-- The second nodes report the first ones: their elements in order, with the same base names and
attributes. Text may be reported in another form, but blank text is reported as blank text or not
at all. -/
inductive Reports : List Markup → List Markup → Prop
  | nil : Reports [] []
  | skip {s : String} {written reported : List Markup} : IsBlankText s.toList →
      Reports written reported → Reports (.text s :: written) reported
  | text {s s' : String} {written reported : List Markup} :
      (IsBlankText s.toList → IsBlankText s'.toList) → Reports written reported →
      Reports (.text s :: written) (.text s' :: reported)
  | element {name name' : Name} {attributes attributes' : List (Name × String)}
      {content content' written reported : List Markup} : name'.base = name.base →
      (attributes'.map fun a ↦ (a.1.base, a.2)).Perm (attributes.map fun a ↦ (a.1.base, a.2)) →
      Reports content content' → Reports written reported →
      Reports (.element name attributes content :: written)
        (.element name' attributes' content' :: reported)

theorem Reports.refl : ∀ nodes : List Markup, Reports nodes nodes
  | [] => .nil
  | .text _ :: nodes => .text id (refl nodes)
  | .element _ _ content :: nodes => .element rfl (.refl _) (refl content) (refl nodes)

/-- Every document is read, and what was written is reported. -/
def IsReader (Writes : List Char → Markup → Prop) (read : List Char → Option Markup) : Prop :=
  ∀ document root, Writes document root →
    ∃ reported, read document = some reported ∧ Reports [root] [reported]

end Markup

namespace Element

/-- What is reported for some elements represents them as well. -/
theorem Represents.of_reports {written reported : List Markup} {elements : List Element}
    (h : Represents written elements) (hreports : Markup.Reports written reported) :
    Represents reported elements := by
  induction h generalizing reported with
  | nil =>
    cases hreports
    exact .nil
  | blank hs _ ih =>
    cases hreports with
    | skip _ hrest => exact ih hrest
    | text hblank hrest => exact .blank (hblank hs) (ih hrest)
  | foreign hname _ ih =>
    cases hreports with
    | element hbase _ _ hrest => exact .foreign (hbase ▸ hname) (ih hrest)
  | element hname hattributes _ _ ihcontent ihnodes =>
    cases hreports with
    | element hbase hperm hcontent hrest =>
      obtain ⟨others, hgiven, hothers⟩ := hattributes
      exact .element (hbase.trans hname) ⟨others, hperm.trans hgiven, hothers⟩
        (ihcontent hcontent) (ihnodes hrest)

end Element

/-! ## Simple ways of writing -/

namespace Markup

variable {scopes : List String} {base : String} {attributes : List (Name × String)}

/-- Attributes whose names have no scope and bind none. -/
def AreBare (attributes : List (Name × String)) : Prop :=
  ∀ a ∈ attributes, a.1.scope = none ∧ a.1.base ≠ "xmlns"

instance (attributes : List (Name × String)) : Decidable (AreBare attributes) :=
  inferInstanceAs (Decidable (∀ a ∈ attributes, _))

theorem AreBare.boundScopes_eq (h : AreBare attributes) : boundScopes attributes = [] := by
  have hfilter : attributes.filter (fun a ↦ a.1.scope == some "xmlns") = [] :=
    List.filter_eq_nil_iff.2 fun a ha ↦ by simp [(h a ha).1]
  rw [boundScopes, hfilter, List.map_nil]

theorem AreBare.ownAttributes_eq (h : AreBare attributes) :
    ownAttributes attributes = attributes :=
  List.filter_eq_self.2 fun a ha ↦ by simp [Name.bindsScope, h a ha]

theorem AreBare.writesStart (h : AreBare attributes) {between : List Char}
    (hbase : (⟨none, base⟩ : Name).IsLegal) (hbetween : WritesAttributes between attributes)
    (hnodup : (attributes.map Prod.fst).Nodup) :
    WritesStart scopes ('<' :: (base.toList ++ between)) ⟨none, base⟩ attributes := by
  refine ⟨⟨between, [], by simp [Name.text], hbetween, nofun⟩, hbase, hnodup, ?_, ?_, nofun⟩
  · intro a ha hxmlns
    rw [(h a ha).1] at hxmlns
    cases hxmlns
  · intro a ha scope hsome
    rw [(h a ha).1] at hsome
    cases hsome

/-- An element without scopes between other content. -/
theorem AreBare.writesContent (h : AreBare attributes) {run between body text : List Char}
    {content nodes : List Markup} (hbase : (⟨none, base⟩ : Name).IsLegal)
    (hbetween : WritesAttributes between attributes) (hnodup : (attributes.map Prod.fst).Nodup)
    (hbody : WritesBody scopes ⟨none, base⟩ body content)
    (htext : WritesContent scopes [] text nodes) :
    WritesContent scopes run ('<' :: (base.toList ++ between) ++ (body ++ text))
      (runNodes run ++ .element ⟨none, base⟩ attributes content :: nodes) := by
  have hscopes : boundScopes attributes ++ scopes = scopes := by
    rw [h.boundScopes_eq, List.nil_append]
  have hstart : WritesStart scopes _ ⟨none, base⟩ attributes :=
    h.writesStart hbase hbetween hnodup
  have helement : WritesContent scopes run _
      (runNodes run ++ .element _ (ownAttributes attributes) _ :: _) :=
    .element hstart (hscopes ▸ hbody) htext
  rwa [h.ownAttributes_eq] at helement

/-- An attribute behind one blank. -/
theorem WritesAttributes.cons_space {name : Name} {quote : Char} {value : String}
    {written text : List Char} (hname : name.IsLegal) (hquote : quote ∈ ['"', '\''])
    (hvalue : WritesValue quote written value.toList) (h : WritesAttributes text attributes) :
    WritesAttributes (' ' :: (name.text ++ '=' :: quote :: (written ++ quote :: text)))
      ((name, value) :: attributes) :=
  .cons (List.cons_ne_nil ' ' []) isBlankText_space hname isBlankText_nil isBlankText_nil hquote
    hvalue h

/-- Text in which some marks do not occur. -/
def IsTextWithout (marks text : List Char) : Prop :=
  ∀ c ∈ text, isTextChar c = true ∧ c ∉ marks

instance (marks text : List Char) : Decidable (IsTextWithout marks text) :=
  List.decidableBAll _ text

theorem WritesValue.self {quote : Char} {value : List Char}
    (h : IsTextWithout [quote, '<', '&'] value) : WritesValue quote value value := by
  induction value with
  | nil => exact .nil
  | cons c value ih =>
    obtain ⟨⟨hc, hmark⟩, hvalue⟩ := List.forall_mem_cons.1 h
    exact .char hc hmark (ih hvalue)

theorem IsComment.of_isTextWithout {body : List Char} (hbody : IsTextWithout ['-'] body) :
    IsComment (['<', '!', '-', '-'] ++ (body ++ ['-', '-', '>'])) := by
  refine ⟨body, rfl, fun c hc ↦ (hbody c hc).1, fun hhyphens ↦ ?_⟩
  have hmem : '-' ∉ body := fun hc ↦ (hbody '-' hc).2 List.mem_cons_self
  have hcount := hhyphens.sublist.count_le '-'
  simp [List.count_eq_zero.2 hmem] at hcount

theorem EndsDoctype.append {subset : Bool} {plain text : List Char}
    (hplain : IsTextWithout ['"', '\'', '[', ']', '<', '>'] plain) (h : EndsDoctype subset text) :
    EndsDoctype subset (plain ++ text) := by
  induction plain with
  | nil => exact h
  | cons c plain ih =>
    obtain ⟨⟨hc, hmark⟩, hplain⟩ := List.forall_mem_cons.1 hplain
    simp only [List.mem_cons, List.not_mem_nil, or_false, not_or] at hmark
    exact .char hc (by simp [hmark]) (by simp [hmark]) (by simp [hmark]) (ih hplain)

end Markup

namespace Element

/-! ## The existence of documents -/

/-- A tree in which the values of all attributes are text. -/
inductive HasTextValues : Element → Prop
  | intro {e : Element} : (∀ a ∈ e.attributes.entries, Markup.IsText a.2.toList) →
      (∀ child ∈ e.children, HasTextValues child) → HasTextValues e

theorem exists_writesValue {value : List Char} (h : Markup.IsText value) :
    ∃ text, Markup.WritesValue '"' text value := by
  induction value with
  | nil => exact ⟨[], .nil⟩
  | cons c value ih =>
    obtain ⟨hc, hvalue⟩ := List.forall_mem_cons.1 h
    obtain ⟨text, htext⟩ := ih hvalue
    by_cases hmark : c ∈ ['"', '<', '&']
    · obtain ⟨reference, hreference⟩ : ∃ reference, Markup.Refers reference c := by
        simp only [List.mem_cons, List.not_mem_nil, or_false] at hmark
        rcases hmark with rfl | rfl | rfl
        · exact ⟨_, .quot⟩
        · exact ⟨_, .lt⟩
        · exact ⟨_, .amp⟩
      exact ⟨_, .reference hreference htext⟩
    · exact ⟨c :: text, .char hc hmark htext⟩

theorem exists_writesAttributes {attributes : List (Markup.Name × String)}
    (h : ∀ a ∈ attributes, a.1.IsLegal ∧ Markup.IsText a.2.toList) :
    ∃ text, Markup.WritesAttributes text attributes := by
  induction attributes with
  | nil => exact ⟨[], .nil⟩
  | cons a attributes ih =>
    obtain ⟨⟨hname, hvalue⟩, hattributes⟩ := List.forall_mem_cons.1 h
    obtain ⟨text, htext⟩ := ih hattributes
    obtain ⟨written, hwritten⟩ := exists_writesValue hvalue
    exact ⟨_, .cons_space hname List.mem_cons_self hwritten htext⟩

/-- The names of the format are legal, and none of them binds scopes. -/
theorem isLegal_of_known {base : String} (h : IsTag base ∨ IsAttribute base) :
    (⟨none, base⟩ : Markup.Name).IsLegal ∧ base ≠ "xmlns" := by
  have hlegal : ∀ base ∈ ["node", "interface", "method", "signal", "property", "arg", "annotation",
      "name", "type", "direction", "access", "value"],
      base.toList.head?.any Markup.isNameStart = true ∧
        (base.toList.all fun c ↦ Markup.isNameChar c && c != ':') = true ∧ base ≠ "xmlns" := by
    decide
  obtain ⟨hhead, hchars, hne⟩ := hlegal base (List.mem_append.2 h)
  exact ⟨Markup.Name.isLegal_bare hhead hchars, hne⟩

/-- Attributes with names that have no scope. -/
def bareAttributes (attributes : Attributes) : List (Markup.Name × String) :=
  attributes.entries.map fun a ↦ (⟨none, a.1⟩, a.2)

theorem areBare_bareAttributes {attributes : Attributes}
    (h : ∀ a ∈ attributes.entries, IsAttribute a.1) :
    Markup.AreBare (bareAttributes attributes) := by
  intro a ha
  obtain ⟨b, hb, rfl⟩ := List.mem_map.1 ha
  exact ⟨rfl, (isLegal_of_known (.inr (h b hb))).2⟩

theorem nodup_bareAttributes (attributes : Attributes) :
    ((bareAttributes attributes).map Prod.fst).Nodup := by
  have hmap : (bareAttributes attributes).map Prod.fst =
      (attributes.entries.map Prod.fst).map fun base ↦ ⟨none, base⟩ := by
    simp [bareAttributes]
  rw [hmap]
  exact List.Nodup.map (fun _ _ h ↦ (Markup.Name.mk.inj h).2) attributes.nodup_names

theorem representsAttributes_bareAttributes (attributes : Attributes) :
    RepresentsAttributes (bareAttributes attributes) attributes := by
  refine ⟨[], ?_, nofun⟩
  simp [bareAttributes, Function.comp_def]

theorem exists_writesBareAttributes {attributes : Attributes}
    (hnames : ∀ a ∈ attributes.entries, IsAttribute a.1)
    (hvalues : ∀ a ∈ attributes.entries, Markup.IsText a.2.toList) :
    ∃ between, Markup.WritesAttributes between (bareAttributes attributes) := by
  refine exists_writesAttributes fun a ha ↦ ?_
  obtain ⟨b, hb, rfl⟩ := List.mem_map.1 ha
  exact ⟨(isLegal_of_known (.inr (hnames b hb))).1, hvalues b hb⟩

/-- Elements that can be written one by one can be written behind each other. -/
theorem exists_writesContent {elements : List Element} (hknown : ∀ e ∈ elements, e.IsKnown)
    (h : ∀ e ∈ elements, ∃ between body content,
      Markup.WritesAttributes between (bareAttributes e.attributes) ∧
        Markup.WritesBody [] ⟨none, e.tag⟩ body content ∧ Represents content e.children) :
    ∃ text nodes, Markup.WritesContent [] [] text nodes ∧ Represents nodes elements := by
  induction elements with
  | nil => exact ⟨[], [], .nil, .nil⟩
  | cons e elements ih =>
    obtain ⟨⟨htag, hnames, -⟩, hknown⟩ := List.forall_mem_cons.1 hknown
    obtain ⟨⟨between, body, content, hbetween, hbody, hcontent⟩, h⟩ := List.forall_mem_cons.1 h
    obtain ⟨text, nodes, htext, hnodes⟩ := ih hknown h
    have hlegal := (isLegal_of_known (.inl htag)).1
    exact ⟨_, _, (areBare_bareAttributes hnames).writesContent hlegal hbetween
      (nodup_bareAttributes _) hbody htext,
      .element rfl (representsAttributes_bareAttributes _) hcontent hnodes⟩

theorem exists_writesBody {e : Element} (hknown : e.IsKnown) (htext : e.HasTextValues) :
    ∃ between body content,
      Markup.WritesAttributes between (bareAttributes e.attributes) ∧
        Markup.WritesBody [] ⟨none, e.tag⟩ body content ∧ Represents content e.children := by
  induction e with
  | element e ih =>
    obtain ⟨-, hnames, hchildren⟩ := hknown
    obtain ⟨hvalues, htexts⟩ := htext
    obtain ⟨between, hbetween⟩ := exists_writesBareAttributes hnames hvalues
    obtain ⟨inner, nodes, hinner, hnodes⟩ := exists_writesContent hchildren
      fun child hchild ↦ ih child hchild (hchildren child hchild) (htexts child hchild)
    exact ⟨between, _, nodes, hbetween, .opened hinner ⟨[], rfl, nofun⟩, hnodes⟩

/-- A tree of the format whose values are text can be written. -/
theorem exists_isWrittenIn {e : Element} (hknown : e.IsKnown) (htext : e.HasTextValues) :
    ∃ document, e.IsWrittenIn Markup.WritesDocument document := by
  obtain ⟨between, body, content, hbetween, hbody, hcontent⟩ := exists_writesBody hknown htext
  obtain ⟨htag, hnames, -⟩ := hknown
  have hbare := areBare_bareAttributes hnames
  have hstart : Markup.WritesStart [] _ ⟨none, e.tag⟩ (bareAttributes e.attributes) :=
    hbare.writesStart (isLegal_of_known (.inl htag)).1 hbetween (nodup_bareAttributes _)
  refine ⟨_, .element ⟨none, e.tag⟩ (bareAttributes e.attributes) content,
    ⟨[], [], [], _, body, [], _, _, content, rfl, .inl rfl, .inl rfl, .nil, hstart, ?_, ?_⟩,
    .element rfl (representsAttributes_bareAttributes _) hcontent .nil⟩
  · rw [hbare.boundScopes_eq]
    exact hbody
  · rw [hbare.ownAttributes_eq]

end Element

end Introspection
