import Introspection.Proofs.Markup.Steps

/-!
# Reading tags

Between the parts of a start tag the reader may stand at several places, which all treat what
follows the parts alike. So a start tag can be read part by part, and its element is opened with
the attributes and the scopes that were written.
-/

namespace Introspection.Markup.Reader

variable {r : Reader} {c quote : Char} {seen : List Char} {tag : StartTag} {name : Name}

/-! ## Names -/

theorem step_startName (hc : isNameChar c = true) (seen : List Char) :
    (r.goTo (.startName seen)).step c = some (.more (r.goTo (.startName (c :: seen)))) := by
  rw [step, isTextChar_of_isNameChar hc]
  exact if_pos hc

theorem step_attributeName (hc : isNameChar c = true) (seen : List Char) :
    (r.goTo (.attributeName tag seen)).step c =
      some (.more (r.goTo (.attributeName tag (c :: seen)))) := by
  rw [step, isTextChar_of_isNameChar hc]
  exact if_pos hc

theorem step_endName (hc : isNameChar c = true) (seen : List Char) :
    (r.goTo (.endName seen)).step c = some (.more (r.goTo (.endName (c :: seen)))) := by
  rw [step, isTextChar_of_isNameChar hc]
  exact if_pos hc

/-! ## Between the parts of a start tag -/

/-- The reader stands behind some parts of a start tag. -/
def StandsBehind (r : Reader) (tag : StartTag) : Prop :=
  ∀ c, isBlank c = true ∨ c = '>' ∨ c = '/' → r.step c = r.betweenParts tag c

theorem isTextChar_of_ends (hc : isBlank c = true ∨ c = '>' ∨ c = '/') : isTextChar c = true := by
  rcases hc with hc | rfl | rfl
  · exact isTextChar_of_isBlank hc
  · rfl
  · rfl

theorem not_isNameChar_of_ends (hc : isBlank c = true ∨ c = '>' ∨ c = '/') :
    ¬ isNameChar c = true := by
  rcases hc with hc | rfl | rfl
  · simp [isNameChar_eq_false_of_isBlank hc]
  · decide
  · decide

theorem standsBehind_startName (h : Name.ofChars? seen.reverse = some name) :
    (r.goTo (.startName seen)).StandsBehind ⟨name, []⟩ := by
  intro c hc
  have hstep : (r.goTo (.startName seen)).step c =
      (Name.ofChars? seen.reverse).bind fun name ↦
        (r.goTo (.startName seen)).betweenParts ⟨name, []⟩ c := by
    rw [step, isTextChar_of_ends hc]
    exact if_neg (not_isNameChar_of_ends hc)
  rw [hstep, h]
  rfl

theorem standsBehind_startTag : (r.goTo (.startTag tag)).StandsBehind tag := by
  intro c hc
  have hstart : ¬ isNameStart c = true :=
    fun hstart ↦ not_isNameChar_of_ends hc (isNameChar_of_isNameStart hstart)
  rw [step, isTextChar_of_ends hc]
  exact if_neg hstart

theorem standsBehind_afterValue : (r.goTo (.afterValue tag)).StandsBehind tag := by
  intro c hc
  rw [step, isTextChar_of_ends hc]
  rfl

/-- A blank behind a part makes room for the next one. -/
theorem StandsBehind.step_blank (h : r.StandsBehind tag) (hc : isBlank c = true) :
    r.step c = some (.more (r.goTo (.startTag tag))) := by
  rw [h c (.inl hc)]
  exact if_pos hc

theorem finish_blanks {blanks : List Char} (h : IsBlankText blanks) (rest : List Char) :
    (r.goTo (.startTag tag)).finish (blanks ++ rest) = (r.goTo (.startTag tag)).finish rest :=
  finish_append_of_stay (fun c hc ↦ standsBehind_startTag.step_blank (h c hc)) rest

/-! ## Attributes -/

theorem step_afterAttributeName (hc : isBlank c = true) :
    (r.goTo (.afterAttributeName tag name)).step c =
      some (.more (r.goTo (.afterAttributeName tag name))) := by
  rw [step, isTextChar_of_isBlank hc]
  exact (if_neg (ne_of_isBlank hc rfl)).trans (if_pos hc)

theorem step_beforeValue (hc : isBlank c = true) :
    (r.goTo (.beforeValue tag name)).step c = some (.more (r.goTo (.beforeValue tag name))) := by
  have hdouble : c ≠ '"' := ne_of_isBlank hc rfl
  have hsingle : c ≠ '\'' := ne_of_isBlank hc rfl
  have hne : ¬ (decide (c = '"') || decide (c = '\'')) = true := by simp [hdouble, hsingle]
  rw [step, isTextChar_of_isBlank hc]
  exact (if_neg hne).trans (if_pos hc)

theorem step_attributeName_end (hname : Name.ofChars? seen.reverse = some name)
    (htext : isTextChar c = true) (hc : ¬ isNameChar c = true) :
    (r.goTo (.attributeName tag seen)).step c =
      if c = '=' then r.move (.beforeValue tag name)
      else if isBlank c then r.move (.afterAttributeName tag name)
      else none := by
  rw [step, htext]
  change readAttributeName _ _ _ _ = _
  rw [readAttributeName, if_neg hc, hname]
  rfl

/-- A name and its equals sign. -/
theorem finish_attributeName (h : name.IsLegal) {before : List Char} (hbefore : IsBlankText before)
    (rest : List Char) :
    (r.goTo (.startTag tag)).finish (name.text ++ (before ++ '=' :: rest)) =
      (r.goTo (.beforeValue tag name)).finish rest := by
  obtain ⟨c, text, htext, hc, hchars⟩ := h.exists_cons
  have hopen :
      (r.goTo (.startTag tag)).step c = some (.more (r.goTo (.attributeName tag [c]))) := by
    rw [step, isTextChar_of_isNameChar (isNameChar_of_isNameStart hc)]
    exact if_pos hc
  have hname : Name.ofChars? (text.reverse ++ [c]).reverse = some name := by
    rw [← Name.ofChars?_text h, htext]
    simp
  rw [htext, List.cons_append, finish_cons, hopen, goOn,
    finish_append (.attributeName tag) (fun c hc ↦ step_attributeName (hchars c hc))]
  cases before with
  | nil =>
    rw [List.nil_append, finish_cons, step_attributeName_end hname rfl (by decide), if_pos rfl]
    rfl
  | cons b before =>
    obtain ⟨hb, hbefore⟩ := List.forall_mem_cons.1 hbefore
    rw [List.cons_append, finish_cons, step_attributeName_end hname (isTextChar_of_isBlank hb)
      (not_isNameChar_of_ends (.inl hb)), if_neg (ne_of_isBlank hb rfl), if_pos hb]
    exact finish_append_of_stay (fun c hc ↦ step_afterAttributeName (hbefore c hc)) _

theorem finish_beforeValue {after : List Char} (hafter : IsBlankText after)
    (hquote : quote ∈ ['"', '\'']) (rest : List Char) :
    (r.goTo (.beforeValue tag name)).finish (after ++ quote :: rest) =
      (r.goTo (.value tag name quote [])).finish rest := by
  rw [finish_append_of_stay fun c hc ↦ step_beforeValue (hafter c hc)]
  rcases eq_or_eq_of_mem_quotes hquote with rfl | rfl <;> rfl

theorem finish_valueReference {reference : List Char} (h : Refers reference c) (rest : List Char) :
    (r.goTo (.valueReference tag name quote seen [])).finish (reference ++ ';' :: rest) =
      (r.goTo (.value tag name quote (c :: seen))).finish rest := by
  have hstep (reference : List Char) (c : Char) (htext : isTextChar c = true) :
      (r.goTo (.valueReference tag name quote seen reference)).step c =
        if c = ';' then
          (resolve? reference.reverse).bind fun resolved ↦
            some (.more (r.goTo (.value tag name quote (resolved :: seen))))
        else some (.more (r.goTo (.valueReference tag name quote seen (c :: reference)))) := by
    rw [step, htext]
    rfl
  rw [finish_reference hstep h, goOn]

/-- A value and the quote behind it. -/
theorem finish_value {text value : List Char} (h : WritesValue quote text value)
    (hquote : quote ∈ ['"', '\'']) (seen rest : List Char) :
    (r.goTo (.value tag name quote seen)).finish (text ++ quote :: rest) =
      (r.goTo (.afterValue
        ⟨tag.name, (name, String.ofList (seen.reverse ++ value)) :: tag.attributes⟩)).finish
          rest := by
  have hquotes := eq_or_eq_of_mem_quotes hquote
  induction h generalizing seen with
  | nil =>
    have hend : (r.goTo (.value tag name quote seen)).step quote = some (.more (r.goTo (.afterValue
        ⟨tag.name, (name, String.ofList seen.reverse) :: tag.attributes⟩))) := by
      have htext : isTextChar quote = true := by rcases hquotes with rfl | rfl <;> rfl
      rw [step, htext]
      exact if_pos rfl
    rw [List.nil_append, finish_cons, hend, goOn, List.append_nil]
  | @char c text value htext hc _ ih =>
    have hstep : (r.goTo (.value tag name quote seen)).step c =
        some (.more (r.goTo (.value tag name quote (c :: seen)))) := by
      simp only [List.mem_cons, List.not_mem_nil, or_false, not_or] at hc
      rw [step, htext]
      exact (if_neg hc.1).trans ((if_neg hc.2.1).trans (if_neg hc.2.2))
    rw [List.cons_append, finish_cons, hstep, goOn, ih]
    simp
  | @reference reference c text value hreference _ ih =>
    have hstep : (r.goTo (.value tag name quote seen)).step '&' =
        some (.more (r.goTo (.valueReference tag name quote seen []))) := by
      rcases hquotes with rfl | rfl <;> rfl
    have happend : '&' :: (reference ++ ';' :: text) ++ quote :: rest =
        '&' :: (reference ++ ';' :: (text ++ quote :: rest)) := by simp
    rw [happend, finish_cons, hstep, goOn, finish_valueReference hreference, ih]
    simp

theorem exists_finish_attributes {between : List Char} {attributes : List (Name × String)}
    (h : WritesAttributes between attributes) {place : Place}
    (hplace : (r.goTo place).StandsBehind tag) :
    ∃ place', (r.goTo place').StandsBehind ⟨tag.name, attributes.reverse ++ tag.attributes⟩ ∧
      ∀ rest, (r.goTo place).finish (between ++ rest) = (r.goTo place').finish rest := by
  induction h generalizing place tag with
  | nil => exact ⟨place, hplace, fun _ ↦ rfl⟩
  | @cons gap before after written text name quote value attributes hne hgap hname hbefore hafter
      hquote hvalue _ ih =>
    have hbehind : (r.goTo (.afterValue ⟨tag.name, (name, value) :: tag.attributes⟩)).StandsBehind
        ⟨tag.name, (name, value) :: tag.attributes⟩ := standsBehind_afterValue
    obtain ⟨place', hplace', hfinish⟩ := ih hbehind
    refine ⟨place', by simpa using hplace', fun rest ↦ ?_⟩
    obtain ⟨b, gap, rfl⟩ := List.exists_cons_of_ne_nil hne
    obtain ⟨hb, hgap⟩ := List.forall_mem_cons.1 hgap
    simp only [List.append_assoc, List.cons_append]
    rw [finish_cons, hplace.step_blank hb, goOn, ← hfinish]
    refine (finish_blanks hgap _).trans ?_
    rw [finish_attributeName hname hbefore, finish_beforeValue hafter hquote,
      finish_value hvalue hquote, List.reverse_nil, List.nil_append, String.ofList_toList]
    rfl

/-! ## Start tags -/

/-- A start tag up to the mark that ends it. -/
theorem exists_finish_start {scopes : List String} {text : List Char}
    {attributes : List (Name × String)} (h : WritesStart scopes text name attributes)
    (brackets : Nat) :
    ∃ place, (r.goTo place).StandsBehind ⟨name, attributes.reverse⟩ ∧
      ∀ rest, (r.goTo (.text brackets)).finish (text ++ rest) = (r.goTo place).finish rest := by
  obtain ⟨between, blanks, rfl, hbetween, hblanks⟩ := h.written
  obtain ⟨c, chars, htext, hc, hchars⟩ := h.legal.exists_cons
  have hname : Name.ofChars? (chars.reverse ++ [c]).reverse = some name := by
    rw [← Name.ofChars?_text h.legal, htext]
    simp
  have hopen : (r.goTo .opened).step c = some (.more (r.goTo (.startName [c]))) := by
    have hne {mark : Char} (hmark : isNameStart mark = false) : c ≠ mark := by
      rintro rfl
      rw [hmark] at hc
      cases hc
    rw [step, isTextChar_of_isNameChar (isNameChar_of_isNameStart hc)]
    change readOpened _ _ = _
    rw [readOpened, if_neg (hne rfl), if_neg (hne rfl), if_neg (hne rfl), if_pos hc]
    rfl
  obtain ⟨place, hplace, hfinish⟩ :=
    exists_finish_attributes hbetween (standsBehind_startName (r := r) hname)
  rw [List.append_nil] at hplace
  have hstart (rest : List Char) :
      (r.goTo (.text brackets)).finish ('<' :: (name.text ++ (between ++ blanks)) ++ rest) =
        (r.goTo place).finish (blanks ++ rest) := by
    rw [← hfinish, htext]
    simp only [List.append_assoc, List.cons_append]
    rw [finish_cons]
    change (r.goTo .opened).finish _ = _
    rw [finish_cons, hopen, goOn,
      finish_append .startName fun c hc ↦ step_startName (hchars c hc)]
  cases blanks with
  | nil => exact ⟨place, hplace, hstart⟩
  | cons b blanks =>
    obtain ⟨hb, hblanks⟩ := List.forall_mem_cons.1 hblanks
    refine ⟨.startTag ⟨name, attributes.reverse⟩, standsBehind_startTag, fun rest ↦ ?_⟩
    rw [hstart, List.cons_append, finish_cons, hplace.step_blank hb, goOn]
    exact finish_blanks hblanks rest

/-! ## Elements -/

/-- The scopes that are bound in the innermost open element. -/
def scopes (r : Reader) : List String :=
  (r.stack.head?.map OpenElement.scopes).getD []

def opened (r : Reader) (e : OpenElement) : Reader :=
  { r.endRun with stack := e :: r.endRun.stack }

@[simp]
theorem scopes_endRun (r : Reader) : r.endRun.scopes = r.scopes := by
  obtain ⟨place, atStart, typed, stack, run⟩ := r
  unfold endRun
  split
  · rfl
  · cases stack <;> rfl

@[simp]
theorem run_endRun (r : Reader) : r.endRun.run = [] := by
  unfold endRun
  split
  · next hrun => exact List.isEmpty_iff.1 hrun
  · rfl

@[simp]
theorem typed_endRun (r : Reader) : r.endRun.typed = r.typed := by
  unfold endRun
  split <;> rfl

theorem endRun_of_run_eq_nil (h : r.run = []) : r.endRun = r := by
  simp [endRun, h]

/-- Only names in the scope that is kept for it bind scopes to texts. -/
theorem filterMap_bindings (attributes : List (Name × String)) :
    (attributes.filter fun a ↦ a.1.bindsScope).filterMap (fun a ↦ a.1.scope.map fun _ ↦ a.1.base) =
      boundScopes attributes := by
  induction attributes with
  | nil => rfl
  | cons a attributes ih =>
    obtain ⟨⟨scope, base⟩, value⟩ := a
    unfold boundScopes at ih ⊢
    cases scope with
    | none =>
      by_cases hbase : base = "xmlns"
      · simpa [Name.bindsScope, hbase] using ih
      · simpa [Name.bindsScope, hbase] using ih
    | some scope =>
      by_cases hscope : scope = "xmlns"
      · simpa [Name.bindsScope, hscope] using ih
      · simpa [Name.bindsScope, hscope] using ih

theorem inScope_iff {scopes : List String} :
    inScope scopes name = true ↔
      ∀ scope, name.scope = some scope → scope = "xml" ∨ scope ∈ scopes := by
  obtain ⟨scope, base⟩ := name
  cases scope <;> simp [inScope]

theorem all_isBinding {attributes : List (Name × String)}
    (h : ∀ a ∈ attributes, a.1.scope = some "xmlns" →
      a.1.base ≠ "xmlns" ∧ a.1.base ≠ "xml" ∧ a.2 ≠ "") :
    ((attributes.filter fun a ↦ a.1.bindsScope).all fun a ↦ isBinding a.1 a.2) = true := by
  refine List.all_eq_true.2 fun a ha ↦ ?_
  obtain ⟨hmem, hbinds⟩ := List.mem_filter.1 ha
  rcases Bool.or_eq_true_iff.1 hbinds with hscope | hscope
  · obtain ⟨hxmlns, hxml, hvalue⟩ := h a hmem (eq_of_beq hscope)
    simp [isBinding, hxmlns, hxml, hvalue]
  · simp [isBinding, (Bool.and_eq_true_iff.1 hscope).1]

theorem all_inScope {attributes : List (Name × String)} {scopes : List String}
    (h : ∀ a ∈ attributes, ∀ scope, a.1.scope = some scope →
      scope = "xmlns" ∨ scope = "xml" ∨ scope ∈ scopes) :
    ((ownAttributes attributes).all fun a ↦ inScope scopes a.1) = true := by
  refine List.all_eq_true.2 fun a ha ↦ inScope_iff.2 fun scope hscope ↦ ?_
  obtain ⟨hmem, hbinds⟩ := List.mem_filter.1 ha
  refine (h a hmem scope hscope).resolve_left ?_
  rintro rfl
  simp [Name.bindsScope, hscope] at hbinds

/-- The element of a start tag is opened with what was written. -/
theorem openElement_of_writesStart {text : List Char} {attributes : List (Name × String)}
    (h : WritesStart r.scopes text name attributes) :
    r.openElement ⟨name, attributes.reverse⟩ =
      some (r.opened ⟨name, ownAttributes attributes, boundScopes attributes ++ r.scopes, []⟩) := by
  have hscopes : (r.endRun.stack.head?.map OpenElement.scopes).getD [] = r.scopes :=
    scopes_endRun r
  have hnodup : ((ownAttributes attributes).map Prod.fst).Nodup :=
    h.distinct.sublist (List.filter_sublist.map Prod.fst)
  have hxml : (name.scope != some "xml") = true := by
    rw [bne_iff_ne]
    exact fun hscope ↦ (h.nameInScope "xml" hscope).1 rfl
  have hname : inScope (boundScopes attributes ++ r.scopes) name = true :=
    inScope_iff.2 fun scope hscope ↦ .inr (h.nameInScope scope hscope).2
  unfold openElement
  simp only [List.reverse_reverse, List.partition_eq_filter_filter]
  have hown : (attributes.filter (not ∘ fun a ↦ a.1.bindsScope)) = ownAttributes attributes := rfl
  rw [hown, filterMap_bindings, hscopes, all_isBinding h.bindings,
    all_inScope h.attributesInScope, decide_eq_true hnodup, hxml, hname]
  rfl

end Introspection.Markup.Reader
