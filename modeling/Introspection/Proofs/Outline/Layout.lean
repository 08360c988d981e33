import Introspection.Proofs.Outline.Lines

/-!
# Layouts

A layout is a heading with further layouts below it. Its text has a line for every heading, and
what is below a heading is set in. Since no heading begins with a blank, the lines below a heading
end where the next heading at its own level stands, and the whole tree is known from its text.
-/

namespace Introspection

open Text

inductive Layout
  | node (heading : String) (below : List Layout)

namespace Layout

/-- Induction over the tree, with the hypothesis for every layout below. -/
@[elab_as_elim, induction_eliminator]
theorem induction {motive : Layout → Prop}
    (node : ∀ heading below, (∀ l ∈ below, motive l) → motive (.node heading below))
    (l : Layout) : motive l :=
  @Layout.rec motive (fun ls ↦ ∀ l ∈ ls, motive l) node nofun
    (fun _ _ h hs ↦ List.forall_mem_cons.2 ⟨h, hs⟩) l

/-! ## The text of a layout -/

mutual

def lines : Layout → List String
  | node heading below => heading :: (linesAll below).map setIn

def linesAll : List Layout → List String
  | [] => []
  | l :: ls => l.lines ++ linesAll ls

end

theorem linesAll_append (ls ls' : List Layout) :
    linesAll (ls ++ ls') = linesAll ls ++ linesAll ls' := by
  induction ls with
  | nil => rfl
  | cons l ls ih => rw [List.cons_append, linesAll, linesAll, ih, List.append_assoc]

def text (l : Layout) : String :=
  unlines l.lines

/-- The text of what is below a heading. -/
def textBelow (ls : List Layout) : String :=
  unlines ((linesAll ls).map setIn)

theorem text_node (heading : String) (below : List Layout) :
    (node heading below).text = line heading ++ textBelow below := by
  rw [text, lines, unlines, List.map_cons, String.join_cons]
  rfl

theorem textBelow_append (ls ls' : List Layout) :
    textBelow (ls ++ ls') = textBelow ls ++ textBelow ls' := by
  rw [textBelow, linesAll_append, List.map_append, unlines_append]
  rfl

/-! ## Layouts that can be read back -/

/-- All headings are labels. -/
inductive Clean : Layout → Prop
  | node {heading : String} {below : List Layout} :
      IsLabel heading → (∀ l ∈ below, Clean l) → Clean (node heading below)

theorem isLine_setIn {s : String} (h : IsLine s) : IsLine (setIn s) :=
  (by decide : IsLine "  ").append h

theorem isLine_of_mem_map_setIn {ls : List String} (h : ∀ s ∈ ls, IsLine s) :
    ∀ s ∈ ls.map setIn, IsLine s := by
  intro s hs
  obtain ⟨s', hs', rfl⟩ := List.mem_map.1 hs
  exact isLine_setIn (h s' hs')

theorem isLine_of_mem_linesAll {ls : List Layout} (h : ∀ l ∈ ls, ∀ s ∈ l.lines, IsLine s) :
    ∀ s ∈ linesAll ls, IsLine s := by
  induction ls with
  | nil => exact nofun
  | cons l ls ih =>
    obtain ⟨hl, hls⟩ := List.forall_mem_cons.1 h
    exact List.forall_mem_append.2 ⟨hl, ih hls⟩

theorem Clean.isLine_of_mem {l : Layout} (h : l.Clean) : ∀ s ∈ l.lines, IsLine s := by
  induction h with
  | node hheading _ ih =>
    rw [lines, List.forall_mem_cons]
    exact ⟨hheading.isLine, isLine_of_mem_map_setIn (isLine_of_mem_linesAll ih)⟩

/-- A text below a heading is the texts of its parts, set in. -/
theorem nested_map_text {ls : List Layout} (h : ∀ l ∈ ls, l.Clean) :
    nested (ls.map text) = textBelow ls := by
  induction ls with
  | nil => rfl
  | cons l ls ih =>
    obtain ⟨hl, hls⟩ := List.forall_mem_cons.1 h
    rw [textBelow, linesAll, List.map_append, unlines_append, ← textBelow, ← ih hls,
      ← ofList_indented_unlines hl.isLine_of_mem, nested, List.map_cons, List.map_cons,
      String.join_cons]
    rfl

/-- Some lines that do not go on with what is set in above them. -/
def StartsOutside (lines : List String) : Prop :=
  ∀ s ∈ lines.head?, s.toList.head? ≠ some ' '

theorem startsOutside_nil : StartsOutside [] :=
  nofun

theorem startsOutside_cons {s : String} (h : IsLabel s) (ss : List String) :
    StartsOutside (s :: ss) := by
  intro s' hs'
  obtain rfl : s = s' := Option.some.inj hs'
  intro hblank
  have hhead := h.head
  rw [hblank] at hhead
  exact absurd hhead (by decide)

theorem startsOutside_linesAll {ls : List Layout} (h : ∀ l ∈ ls, l.Clean) :
    StartsOutside (linesAll ls) := by
  cases ls with
  | nil => exact startsOutside_nil
  | cons l ls =>
    obtain ⟨hheading, -⟩ := h l List.mem_cons_self
    rw [linesAll, lines, List.cons_append]
    exact startsOutside_cons hheading _

theorem setIn_not_startsOutside (s : String) (ss : List String) :
    ¬StartsOutside (setIn s :: ss) := by
  intro h
  refine h _ rfl ?_
  simp [setIn]

/-- The lines that are set in are known from where they end. -/
theorem map_setIn_append_inj {ls ls' rest rest' : List String} (hrest : StartsOutside rest)
    (hrest' : StartsOutside rest') (h : ls.map setIn ++ rest = ls'.map setIn ++ rest') :
    ls = ls' ∧ rest = rest' := by
  induction ls generalizing ls' with
  | nil =>
    cases ls' with
    | nil => exact ⟨rfl, h⟩
    | cons s' ls' =>
      rw [List.map_nil, List.nil_append] at h
      exact absurd (h ▸ hrest) (setIn_not_startsOutside s' _)
  | cons s ls ih =>
    cases ls' with
    | nil =>
      rw [List.map_nil, List.nil_append] at h
      exact absurd (h ▸ hrest') (setIn_not_startsOutside s _)
    | cons s' ls' =>
      obtain ⟨hs, htail⟩ := List.cons.inj h
      obtain ⟨rfl, hrests⟩ := ih htail
      rw [(String.append_right_inj _).1 hs]
      exact ⟨rfl, hrests⟩

/-- Layouts with the same lines are equal if each of them is known from where its lines end. -/
theorem linesAll_inj {ls ls' : List Layout} (hls : ∀ l ∈ ls, l.Clean) (hls' : ∀ l ∈ ls', l.Clean)
    (hinj : ∀ l ∈ ls, ∀ {l' : Layout} {rest rest' : List String}, l'.Clean → StartsOutside rest →
      StartsOutside rest' → l.lines ++ rest = l'.lines ++ rest' → l = l' ∧ rest = rest')
    (h : linesAll ls = linesAll ls') : ls = ls' := by
  induction ls generalizing ls' with
  | nil =>
    cases ls' with
    | nil => rfl
    | cons l' ls' =>
      obtain ⟨heading, below⟩ := l'
      cases h
  | cons l ls ih =>
    cases ls' with
    | nil =>
      obtain ⟨heading, below⟩ := l
      cases h
    | cons l' ls' =>
      obtain ⟨hl, htail⟩ := List.forall_mem_cons.1 hls
      obtain ⟨hl', htail'⟩ := List.forall_mem_cons.1 hls'
      obtain ⟨rfl, hlines⟩ := hinj l List.mem_cons_self hl' (startsOutside_linesAll htail)
        (startsOutside_linesAll htail') h
      rw [ih htail htail' (fun l hl ↦ hinj l (List.mem_cons_of_mem _ hl)) hlines]

theorem lines_append_inj {l l' : Layout} {rest rest' : List String} (hl : l.Clean)
    (hl' : l'.Clean) (hrest : StartsOutside rest) (hrest' : StartsOutside rest')
    (h : l.lines ++ rest = l'.lines ++ rest') : l = l' ∧ rest = rest' := by
  induction l generalizing l' rest rest' with
  | node heading below ih =>
    obtain ⟨heading', below'⟩ := l'
    obtain ⟨-, hbelow⟩ := hl
    obtain ⟨-, hbelow'⟩ := hl'
    rw [lines, lines, List.cons_append, List.cons_append] at h
    obtain ⟨rfl, htail⟩ := List.cons.inj h
    -- What is set in below the heading ends at the first line that is not, on either side.
    obtain ⟨hlines, hrests⟩ := map_setIn_append_inj hrest hrest' htail
    rw [linesAll_inj hbelow hbelow' (fun l hl ↦ ih l hl (hbelow l hl)) hlines]
    exact ⟨rfl, hrests⟩

theorem Clean.text_inj {l l' : Layout} (hl : l.Clean) (hl' : l'.Clean) (h : l.text = l'.text) :
    l = l' := by
  have hlines : l.lines = l'.lines := unlines_inj hl.isLine_of_mem hl'.isLine_of_mem h
  exact (lines_append_inj hl hl' startsOutside_nil startsOutside_nil
    (congrArg (· ++ []) hlines)).1

/-! ## Titles and fields -/

/-- A heading of its own with nothing below it. -/
def field (name text : String) : Layout :=
  node (name ++ ": " ++ text) []

/-- A heading that begins with a word, and names an owner in its first field. -/
def titled (word name owner : String) (below : List Layout) : Layout :=
  node (word ++ " " ++ name) (field "interface_name" owner :: below)

theorem field_inj {name text text' : String} (h : field name text = field name text') :
    text = text' := by
  obtain ⟨hheading, -⟩ := Layout.node.inj h
  exact (String.append_right_inj _).1 hheading

theorem titled_inj {word name name' owner owner' : String} {below below' : List Layout}
    (h : titled word name owner below = titled word name' owner' below') :
    name = name' ∧ owner = owner' ∧ below = below' := by
  obtain ⟨hheading, hall⟩ := Layout.node.inj h
  obtain ⟨howner, hbelow⟩ := List.cons.inj hall
  exact ⟨(String.append_right_inj _).1 hheading, field_inj howner, hbelow⟩

/-- Whether a layout is titled with a word. A layout with nothing below it is a field. -/
def isTitled (w : String) : Layout → Bool
  | node _ [] => false
  | node heading (_ :: _) => String.ofList (heading.toList.takeWhile (· ≠ ' ')) == w

theorem isTitled_titled {word : String} (hword : ' ' ∉ word.toList) (w name owner : String)
    (below : List Layout) : (titled word name owner below).isTitled w = (word == w) := by
  have hfirst : (word ++ " " ++ name).toList.takeWhile (· ≠ ' ') = word.toList := by
    rw [String.toList_append, String.toList_append, List.append_assoc,
      List.takeWhile_append_of_pos fun c hc ↦ by simpa using ne_of_mem_of_not_mem hc hword]
    simp
  rw [titled, isTitled, hfirst, String.ofList_toList]

/-- The layouts that are titled with a word. -/
def titledBy (w : String) (ls : List Layout) : List Layout :=
  ls.filter (isTitled w)

@[simp] theorem titledBy_append (w : String) (ls ls' : List Layout) :
    titledBy w (ls ++ ls') = titledBy w ls ++ titledBy w ls' :=
  List.filter_append ..

@[simp] theorem titledBy_field (w name text : String) : titledBy w [field name text] = [] := rfl

theorem titledBy_map {α : Type} {f : α → Layout} {word : String} (hword : ' ' ∉ word.toList)
    (hf : ∀ a, ∃ name owner below, f a = titled word name owner below) (w : String)
    (as : List α) : titledBy w (as.map f) = if word = w then as.map f else [] := by
  have htitled (a : α) : (f a).isTitled w = (word == w) := by
    obtain ⟨name, owner, below, h⟩ := hf a
    rw [h, isTitled_titled hword]
  have hfilter : as.filter (isTitled w ∘ f) = as.filter fun _ ↦ word == w :=
    List.filter_congr fun a _ ↦ htitled a
  rw [titledBy, List.filter_map, hfilter]
  split
  · next h => simp [h]
  · next h => simp [h]

/-! ## Fields that may be left out -/

def optional (name text : String) : List Layout :=
  if text.isEmpty then [] else [field name text]

@[simp] theorem titledBy_optional (w name text : String) :
    titledBy w (optional name text) = [] := by
  unfold optional
  split <;> rfl

def flag (name : String) (b : Bool) : List Layout :=
  if b then [field name "true"] else []

@[simp] theorem titledBy_flag (w name : String) (b : Bool) : titledBy w (flag name b) = [] := by
  unfold flag
  split <;> rfl

theorem optional_inj {name text text' : String} (h : optional name text = optional name text') :
    text = text' := by
  unfold optional at h
  split at h <;> split at h
  · next hempty hempty' => rw [String.isEmpty_iff.1 hempty, String.isEmpty_iff.1 hempty']
  · cases h
  · cases h
  · exact field_inj (List.cons.inj h).1

/-! ## Texts of layouts -/

/-- The text is that of a layout which can be read back from it. -/
structure Shows (outline : String) (l : Layout) : Prop where
  eq_text : outline = l.text
  clean : l.Clean

theorem Shows.inj {outline outline' : String} {l l' : Layout} (h : Shows outline l)
    (h' : Shows outline' l') (heq : outline = outline') : l = l' :=
  h.clean.text_inj h'.clean (h.eq_text.symm.trans (heq.trans h'.eq_text))

/-- The text is that of some layouts below a heading, which can be read back from it. -/
structure ShowsBelow (text : String) (ls : List Layout) : Prop where
  eq_textBelow : text = textBelow ls
  clean : ∀ l ∈ ls, l.Clean

namespace ShowsBelow

theorem nil : ShowsBelow "" [] :=
  ⟨rfl, nofun⟩

theorem fieldLine {name text : String} (hname : IsLabel name) (htext : IsLine text) :
    ShowsBelow (fieldLine name text) [field name text] := by
  have hheading : IsLabel (name ++ ": " ++ text) := (hname.append (by decide)).append htext
  refine ⟨?_, List.forall_mem_singleton.2 (.node hheading nofun)⟩
  simp [Introspection.fieldLine, textBelow, linesAll, lines, field, unlines, setIn,
    String.append_assoc]

theorem optionalField {name text : String} (hname : IsLabel name) (htext : IsLine text) :
    ShowsBelow (optionalField name text) (optional name text) := by
  unfold Introspection.optionalField optional
  split
  · exact nil
  · exact fieldLine hname htext

theorem flagField {name : String} (hname : IsLabel name) (b : Bool) :
    ShowsBelow (flagField name b) (flag name b) := by
  unfold Introspection.flagField flag
  split
  · exact fieldLine hname (by decide)
  · exact nil

theorem nested {α : Type} {outline : α → String} {layout : α → Layout} {as : List α}
    (h : ∀ a ∈ as, Shows (outline a) (layout a)) :
    ShowsBelow (nested (as.map outline)) (as.map layout) := by
  have hclean : ∀ l ∈ as.map layout, l.Clean := List.forall_mem_map.2 fun a ha ↦ (h a ha).clean
  refine ⟨?_, hclean⟩
  rw [← nested_map_text hclean, List.map_map,
    List.map_congr_left fun a ha ↦ (h a ha).eq_text]
  rfl

end ShowsBelow

theorem shows_heading {word name owner : String} (hword : IsLabel word) (hname : IsLine name)
    (howner : IsLine owner) : Shows (heading word name owner) (titled word name owner []) := by
  have hheading : IsLabel (word ++ " " ++ name) := (hword.append (by decide)).append hname
  have hfield : ShowsBelow (fieldLine "interface_name" owner) [field "interface_name" owner] :=
    .fieldLine (by decide) howner
  refine ⟨?_, .node hheading hfield.clean⟩
  rw [heading, titled, text_node, ← hfield.eq_textBelow]

theorem Shows.append {outline text word name owner : String} {ls ls' : List Layout}
    (h : Shows outline (titled word name owner ls)) (h' : ShowsBelow text ls') :
    Shows (outline ++ text) (titled word name owner (ls ++ ls')) := by
  obtain ⟨rfl, hclean⟩ := h
  obtain ⟨hheading, hbelow⟩ := hclean
  refine ⟨?_, .node hheading (List.forall_mem_append.2 ⟨hbelow, h'.clean⟩)⟩
  rw [titled, titled, text_node, text_node, ← List.cons_append, textBelow_append, h'.eq_textBelow,
    String.append_assoc]

end Layout

end Introspection
