import Introspection.Proofs.Markup.Content

/-!
# Reading documents

What stands before the root leaves the reader without open elements, so the first element that is
complete is the root. A document that was written is read as its root.
-/

namespace Introspection.Markup

/-! ## The fields of a declaration -/

/-- Names and values of fields stand in quotes and before question marks. -/
def IsFieldText (text : List Char) : Prop :=
  ∀ c ∈ text, isTextChar c = true ∧ c ∉ ['"', '\'', '?']

instance (text : List Char) : Decidable (IsFieldText text) :=
  List.decidableBAll _ text

theorem dropWhile_isBlank_append {blanks rest : List Char} (h : IsBlankText blanks)
    (hrest : rest.head?.any isBlank = false) : (blanks ++ rest).dropWhile isBlank = rest := by
  rw [List.dropWhile_append_of_pos h]
  cases rest with
  | nil => rfl
  | cons c rest => exact List.dropWhile_cons_of_neg (Bool.eq_false_iff.1 hrest)

namespace WritesField

variable {name value : String} {text : List Char}

theorem head (h : WritesField name value text) : text.head?.any isBlank = true := by
  obtain ⟨gap, before, after, quote, rfl, hne, hgap, -⟩ := h.written
  obtain ⟨b, gap, rfl⟩ := List.exists_cons_of_ne_nil hne
  exact hgap b List.mem_cons_self

theorem exists_word (h : WritesField name value text)
    (hname : name.toList.head?.map isBlank = some false) (rest : List Char) :
    ∃ before after quote, IsBlankText before ∧ IsBlankText after ∧ quote ∈ ['"', '\''] ∧
      (text ++ rest).dropWhile isBlank =
        name.toList ++ (before ++ '=' :: (after ++ quote :: (value.toList ++ quote :: rest))) := by
  obtain ⟨gap, before, after, quote, rfl, -, hgap, hbefore, hafter, hquote⟩ := h.written
  refine ⟨before, after, quote, hbefore, hafter, hquote, ?_⟩
  have happend :
      gap ++ (name.toList ++ (before ++ '=' :: (after ++ quote :: (value.toList ++ [quote])))) ++
        rest = gap ++ (name.toList ++
          (before ++ '=' :: (after ++ quote :: (value.toList ++ quote :: rest)))) := by simp
  rw [happend, dropWhile_isBlank_append hgap]
  cases hcons : name.toList with
  | nil => simp [hcons] at hname
  | cons c name => simpa [hcons] using hname

/-- A field that was written is found. -/
theorem field?_append (h : WritesField name value text)
    (hname : name.toList.head?.map isBlank = some false) (hvalue : IsFieldText value.toList)
    (rest : List Char) : field? name (text ++ rest) = some (value, rest) := by
  obtain ⟨before, after, quote, hbefore, hafter, hquote, hword⟩ := h.exists_word hname rest
  have hblank : (text ++ rest).head?.any isBlank = true := by
    have hhead := h.head
    cases text with
    | nil => cases hhead
    | cons c text => exact hhead
  have hbegins : name.toList.isPrefixOf ((text ++ rest).dropWhile isBlank) = true := by
    rw [hword, List.isPrefixOf_iff_prefix]
    exact List.prefix_append _ _
  have hequals : (((text ++ rest).dropWhile isBlank).drop name.length).dropWhile isBlank =
      '=' :: (after ++ quote :: (value.toList ++ quote :: rest)) := by
    rw [hword, List.drop_left' String.length_toList]
    exact dropWhile_isBlank_append hbefore rfl
  have hquoteBlank : isBlank quote = false := by
    rcases eq_or_eq_of_mem_quotes hquote with rfl | rfl <;> rfl
  have hopen : (after ++ quote :: (value.toList ++ quote :: rest)).dropWhile isBlank =
      quote :: (value.toList ++ quote :: rest) :=
    dropWhile_isBlank_append hafter hquoteBlank
  have htake : (value.toList ++ quote :: rest).takeWhile (· != quote) = value.toList := by
    have hne : ∀ c ∈ value.toList, (c != quote) = true := by
      intro c hc
      rw [bne_iff_ne]
      rintro rfl
      exact (hvalue c hc).2 (List.mem_append_left ['?'] hquote)
    rw [List.takeWhile_append_of_pos hne]
    simp
  have hquotes : (quote == '"' || quote == '\'') = true := by simpa using hquote
  unfold field?
  simp only [hblank, hbegins, hequals, hopen, htake, hquotes]
  simp

end WritesField

theorem field?_eq_none {name : String} {text : List Char}
    (h : name.toList.isPrefixOf (text.dropWhile isBlank) = false) : field? name text = none := by
  simp [field?, h]

/-- A field that may be missing is passed over. -/
theorem skipField?_append {name : String} {values : List String} {text rest : List Char}
    (h : text = [] ∨ ∃ value ∈ values, WritesField name value text)
    (hname : name.toList.head?.map isBlank = some false)
    (hvalues : ∀ value ∈ values, IsFieldText value.toList)
    (hrest : name.toList.isPrefixOf (rest.dropWhile isBlank) = false) :
    skipField? name values (text ++ rest) = some rest := by
  unfold skipField?
  rcases h with rfl | ⟨value, hvalue, hfield⟩
  · rw [List.nil_append, field?_eq_none hrest]
  · rw [hfield.field?_append hname (hvalues value hvalue)]
    simp [hvalue]

/-! ## Declarations -/

theorem isFieldText_encodings : ∀ value ∈ encodings, IsFieldText value.toList := by
  decide

theorem isDeclaration_append {version encoding standalone blanks : List Char}
    (hversion : ∃ value ∈ ["1.0", "1.1"], WritesField "version" value version)
    (hencoding : encoding = [] ∨ ∃ value ∈ encodings, WritesField "encoding" value encoding)
    (hstandalone : standalone = [] ∨
      ∃ value ∈ ["yes", "no"], WritesField "standalone" value standalone)
    (hblanks : IsBlankText blanks) :
    isDeclaration (version ++ (encoding ++ (standalone ++ blanks))) = true := by
  obtain ⟨value, hvalue, hfield⟩ := hversion
  have hversions : ∀ value ∈ ["1.0", "1.1"], IsFieldText value.toList := by decide
  have hdrop : blanks.dropWhile isBlank = [] := List.dropWhile_eq_nil_iff.2 hblanks
  have hother :
      "encoding".toList.isPrefixOf ((standalone ++ blanks).dropWhile isBlank) = false := by
    rcases hstandalone with rfl | ⟨value, -, hstandalone⟩
    · rw [List.nil_append, hdrop]
      rfl
    · obtain ⟨before, after, quote, -, -, -, hword⟩ := hstandalone.exists_word rfl blanks
      rw [hword]
      rfl
  have hlast : "standalone".toList.isPrefixOf (blanks.dropWhile isBlank) = false := by
    rw [hdrop]
    rfl
  unfold isDeclaration
  rw [hfield.field?_append rfl (hversions value hvalue)]
  simp only [Option.bind_eq_bind, Option.bind_some]
  rw [skipField?_append hencoding rfl isFieldText_encodings hother]
  simp only [Option.bind_some]
  rw [skipField?_append hstandalone rfl (by decide) hlast]
  have hcontains : ["1.0", "1.1"].contains value = true := List.contains_iff_mem.2 hvalue
  have hall : blanks.all isBlank = true := List.all_eq_true.2 hblanks
  simp only [Option.bind_some, hcontains, hall]
  rfl

/-- Text in which no instruction ends. -/
def IsInstructionText (text : List Char) : Prop :=
  ∀ c ∈ text, isTextChar c = true ∧ c ≠ '?'

namespace IsInstructionText

variable {text other : List Char}

theorem append (h : IsInstructionText text) (hother : IsInstructionText other) :
    IsInstructionText (text ++ other) :=
  List.forall_mem_append.2 ⟨h, hother⟩

theorem cons {c : Char} (hc : isTextChar c = true ∧ c ≠ '?') (h : IsInstructionText text) :
    IsInstructionText (c :: text) :=
  List.forall_mem_cons.2 ⟨hc, h⟩

theorem of_isBlankText (h : IsBlankText text) : IsInstructionText text := by
  refine fun c hc ↦ ⟨isTextChar_of_isBlank (h c hc), ?_⟩
  rintro rfl
  cases h '?' hc

theorem of_isFieldText (h : IsFieldText text) : IsInstructionText text :=
  fun c hc ↦ ⟨(h c hc).1, fun heq ↦ (h c hc).2 (by simp [heq])⟩

theorem of_writesField {name value : String} (h : WritesField name value text)
    (hname : IsFieldText name.toList) (hvalue : IsFieldText value.toList) :
    IsInstructionText text := by
  obtain ⟨gap, before, after, quote, rfl, -, hgap, hbefore, hafter, hquote⟩ := h.written
  have hmark : isTextChar quote = true ∧ quote ≠ '?' := by
    rcases eq_or_eq_of_mem_quotes hquote with rfl | rfl <;> decide
  have hclosed : IsInstructionText (value.toList ++ [quote]) :=
    (of_isFieldText hvalue).append (cons hmark nofun)
  have hbehind : IsInstructionText (after ++ quote :: (value.toList ++ [quote])) :=
    (of_isBlankText hafter).append (cons hmark hclosed)
  exact (of_isBlankText hgap).append ((of_isFieldText hname).append
    ((of_isBlankText hbefore).append (cons (by decide) hbehind)))

theorem of_exists_writesField {name : String} {values : List String}
    (h : text = [] ∨ ∃ value ∈ values, WritesField name value text)
    (hname : IsFieldText name.toList) (hvalues : ∀ value ∈ values, IsFieldText value.toList) :
    IsInstructionText text := by
  rcases h with rfl | ⟨value, hvalue, hfield⟩
  · exact nofun
  · exact of_writesField hfield hname (hvalues value hvalue)

theorem unbroken (h : IsInstructionText text) : ¬ ['?', '>'] <:+: text :=
  fun hmark ↦ (h '?' (hmark.subset List.mem_cons_self)).2 rfl

end IsInstructionText

namespace Reader

/-- The reader between markup before the root. -/
def outside (atStart typed : Bool) : Reader :=
  ⟨.text 0, atStart, typed, [], []⟩

theorem endInstruction_declaration {r : Reader} {fields : List Char} (hstart : r.atStart = true)
    (hblank : fields.head?.any isBlank = true) (h : isDeclaration fields = true) :
    r.endInstruction false (['x', 'm', 'l'] ++ fields) = r.resume := by
  have htake : (['x', 'm', 'l'] ++ fields).takeWhile (!isBlank ·) = "xml".toList := by
    cases fields with
    | nil => cases hblank
    | cons c fields =>
      have hc : isBlank c = true := hblank
      rw [List.takeWhile_append_of_pos (by simp [isBlank]),
        List.takeWhile_cons_of_neg (by simp [hc])]
      rfl
  have hdrop : (['x', 'm', 'l'] ++ fields).drop 3 = fields := rfl
  unfold endInstruction
  rw [htake, if_pos rfl, hdrop, hstart, h]
  rfl

theorem finish_of_writesDeclaration {text : List Char} (h : WritesDeclaration text)
    (rest : List Char) : start.finish (text ++ rest) = (outside false false).finish rest := by
  obtain ⟨version, encoding, standalone, blanks, rfl, hversion, hencoding, hstandalone, hblanks⟩ :=
    h.written
  have hinstruction :
      IsInstructionText (['x', 'm', 'l'] ++ (version ++ (encoding ++ (standalone ++ blanks)))) :=
    .append (by simp [IsInstructionText, isTextChar])
      (.append (.of_exists_writesField (.inr hversion) (by decide) (by decide))
        (.append (.of_exists_writesField hencoding (by decide) isFieldText_encodings)
          (.append (.of_exists_writesField hstandalone (by decide) (by decide))
            (.of_isBlankText hblanks))))
  have hopen : start.finish (['<', '?', 'x', 'm', 'l'] ++
      (version ++ (encoding ++ (standalone ++ (blanks ++ ['?', '>'])))) ++ rest) =
        (start.goTo (.instruction false [])).finish
          (['x', 'm', 'l'] ++ (version ++ (encoding ++ (standalone ++ blanks))) ++
            '?' :: '>' :: rest) := by
    simp only [List.append_assoc]
    rfl
  have hhead : (version ++ (encoding ++ (standalone ++ blanks))).head?.any isBlank = true := by
    obtain ⟨value, -, hfield⟩ := hversion
    have hhead := hfield.head
    cases version with
    | nil => cases hhead
    | cons c version => exact hhead
  rw [hopen, finish_instruction (fun c hc ↦ (hinstruction c hc).1) hinstruction.unbroken,
    endInstruction_declaration rfl hhead
      (isDeclaration_append hversion hencoding hstandalone hblanks)]
  rfl

/-! ## Document types -/

/-- A place in a document type, where no comment or instruction has been opened. -/
inductive AtType : Bool → List Char → Place → Prop
  | between {subset : Bool} {text : List Char} : AtType subset text (.doctype none subset)
  | mark {seen text : List Char} : ¬ ContinuesMark (seen.reverse ++ text) →
      AtType true text (.typeMark seen)

section Places

variable {r : Reader} {place : Place} {subset : Bool} {c : Char} {seen text : List Char}

theorem step_typeMark (htext : isTextChar c = true)
    (h : ¬ ContinuesMark (seen.reverse ++ c :: text)) :
    (r.goTo (.typeMark seen)).step c =
      if (c :: seen).reverse <+: ['!', '-', '-'] then some (.more (r.goTo (.typeMark (c :: seen))))
      else (r.goTo (.doctype none true)).step c := by
  have hseen : (c :: seen).reverse <+: seen.reverse ++ c :: text := ⟨text, by simp⟩
  have hcomment : (c :: seen).reverse ≠ "!--".toList := by
    intro heq
    rw [heq] at hseen
    exact h (.inl hseen)
  have hinstruction : (c :: seen).reverse ≠ "?".toList := by
    intro heq
    rw [heq] at hseen
    exact h (.inr hseen)
  have hprefix : (c :: seen).reverse.isPrefixOf "!--".toList = true ↔
      (c :: seen).reverse <+: ['!', '-', '-'] := List.isPrefixOf_iff_prefix
  have hdoctype : (r.goTo (.doctype none true)).step c =
      (r.goTo (.typeMark seen)).readDoctype none true c := by
    rw [step, htext]
    rfl
  rw [hdoctype, step, htext]
  change readTypeMark _ _ _ = _
  simp only [readTypeMark, if_neg hcomment, if_neg hinstruction, hprefix]
  rfl

/-- What cannot be a part of a mark is read as if none had begun. -/
theorem AtType.finish_cons (h : AtType subset (c :: text) place) (htext : isTextChar c = true)
    (hc : c ∉ ['!', '-']) (rest : List Char) :
    (r.goTo place).finish (c :: rest) = (r.goTo (.doctype none subset)).finish (c :: rest) := by
  cases h with
  | between => rfl
  | @mark seen _ hmark =>
    have hprefix : ¬ (c :: seen).reverse <+: ['!', '-', '-'] := fun h ↦
      hc (by simpa using h.subset (List.mem_reverse.2 List.mem_cons_self))
    rw [Reader.finish_cons, Reader.finish_cons, step_typeMark htext hmark, if_neg hprefix]

theorem exists_step_doctype (htext : isTextChar c = true) (hc : c ∉ ['"', '\'', '[', ']'])
    (hgt : c = '>' → subset = true) (hlt : c = '<' → subset = true → ¬ ContinuesMark text) :
    ∃ place, AtType subset text place ∧
      (r.goTo (.doctype none subset)).step c = some (.more (r.goTo place)) := by
  have hend : ¬ (decide (c = '>') && !subset) = true := by
    intro h
    obtain ⟨hc, hsubset⟩ := Bool.and_eq_true_iff.1 h
    simp [hgt (of_decide_eq_true hc)] at hsubset
  simp only [List.mem_cons, List.not_mem_nil, or_false, not_or] at hc
  have hquote : ¬ (decide (c = '"') || decide (c = '\'')) = true := by simp [hc]
  have hstep : (r.goTo (.doctype none subset)).step c =
      if c = '<' && subset then some (.more (r.goTo (.typeMark [])))
      else some (.more (r.goTo (.doctype none subset))) := by
    rw [step, htext]
    change (r.goTo (.doctype none subset)).readDoctype none subset c = _
    rw [readDoctype, if_neg hquote, if_neg hc.2.2.1, if_neg hc.2.2.2, if_neg hend]
    rfl
  rw [hstep]
  split
  · next hopen =>
    obtain ⟨hc, rfl⟩ := Bool.and_eq_true_iff.1 hopen
    have hmark : ¬ ContinuesMark ([].reverse ++ text) := hlt (of_decide_eq_true hc) rfl
    exact ⟨_, .mark hmark, rfl⟩
  · exact ⟨_, .between, rfl⟩

theorem AtType.exists_step (h : AtType subset (c :: text) place) (htext : isTextChar c = true)
    (hc : c ∉ ['"', '\'', '[', ']']) (hgt : c = '>' → subset = true)
    (hlt : c = '<' → subset = true → ¬ ContinuesMark text) :
    ∃ place', AtType subset text place' ∧
      (r.goTo place).step c = some (.more (r.goTo place')) := by
  cases h with
  | between => exact exists_step_doctype htext hc hgt hlt
  | @mark seen _ hmark =>
    rw [step_typeMark htext hmark]
    split
    · exact ⟨_, .mark (by simpa using hmark), rfl⟩
    · exact exists_step_doctype htext hc hgt hlt

/-- A quoted text is passed over, whatever it holds. -/
theorem finish_literal {quote : Char} {value : List Char} (hquote : quote ∈ ['"', '\''])
    (hvalue : IsText value) (hne : quote ∉ value) (rest : List Char) :
    (r.goTo (.doctype none subset)).finish (quote :: (value ++ quote :: rest)) =
      (r.goTo (.doctype none subset)).finish rest := by
  have hopen : (r.goTo (.doctype none subset)).step quote =
      some (.more (r.goTo (.doctype (some quote) subset))) := by
    rcases eq_or_eq_of_mem_quotes hquote with rfl | rfl <;> rfl
  have hquoted (c : Char) (hc : isTextChar c = true) :
      (r.goTo (.doctype (some quote) subset)).step c =
        some (.more (r.goTo (.doctype (if c = quote then none else some quote) subset))) := by
    rw [step, hc]
    rfl
  have hstay : ∀ c ∈ value, (r.goTo (.doctype (some quote) subset)).step c =
      some (.more (r.goTo (.doctype (some quote) subset))) := by
    intro c hc
    rw [hquoted c (hvalue c hc), if_neg (ne_of_mem_of_not_mem hc hne)]
  have htext : isTextChar quote = true := by
    rcases eq_or_eq_of_mem_quotes hquote with rfl | rfl <;> rfl
  rw [finish_cons, hopen, goOn, finish_append_of_stay hstay, finish_cons, hquoted quote htext,
    if_pos rfl, goOn]

/-- A document type is passed over, with comments and instructions in it. -/
theorem finish_doctype (h : EndsDoctype subset text) (hrun : r.run = [])
    (hplace : AtType subset text place) (rest : List Char) :
    (r.goTo place).finish (text ++ rest) = goOn r.resume rest := by
  induction h generalizing place with
  | close =>
    rw [List.singleton_append, hplace.finish_cons rfl (by decide)]
    rfl
  | char htext hc hgt hlt _ ih =>
    obtain ⟨place', hplace', hstep⟩ := hplace.exists_step htext hc hgt hlt
    rw [List.cons_append, finish_cons, hstep, goOn, ih hplace']
  | @literal _ quote value text hquote hvalue hne _ ih =>
    have happend : quote :: (value ++ quote :: text) ++ rest =
        quote :: (value ++ quote :: (text ++ rest)) := by simp
    have hmark : isTextChar quote = true ∧ quote ∉ ['!', '-'] := by
      rcases eq_or_eq_of_mem_quotes hquote with rfl | rfl <;> decide
    rw [happend, hplace.finish_cons hmark.1 hmark.2, finish_literal hquote hvalue hne, ih .between]
  | comment hcomment _ ih =>
    obtain ⟨body, rfl, hfinish⟩ := exists_finish_comment (r := r) hcomment true
    rw [List.append_assoc, List.append_assoc]
    refine (hplace.finish_cons rfl (by decide) _).trans ?_
    exact (hfinish _).trans (ih .between)
  | instruction hinstruction _ ih =>
    obtain ⟨body, rfl, hfinish⟩ := exists_finish_instruction (r := r) hinstruction true
    rw [endRun_of_run_eq_nil hrun] at hfinish
    rw [List.append_assoc, List.append_assoc]
    refine (hplace.finish_cons rfl (by decide) _).trans ?_
    exact (hfinish _).trans (ih .between)
  | openSubset _ ih =>
    rw [List.cons_append, hplace.finish_cons rfl (by decide)]
    exact ih .between
  | closeSubset _ ih =>
    rw [List.cons_append, hplace.finish_cons rfl (by decide)]
    exact ih .between

end Places

/-! ## Documents -/

theorem exists_finish_append {r r' : Reader} {piece text : List Char}
    (hpiece : ∀ rest, r.finish (piece ++ rest) = r'.finish rest)
    (h : ∃ atStart typed, ∀ rest,
      r'.finish (text ++ rest) = (outside atStart typed).finish rest) :
    ∃ atStart typed, ∀ rest,
      r.finish (piece ++ text ++ rest) = (outside atStart typed).finish rest := by
  obtain ⟨atStart, typed, hfinish⟩ := h
  refine ⟨atStart, typed, fun rest ↦ ?_⟩
  rw [List.append_assoc, hpiece, hfinish]

/-- What stands before the root is passed over. -/
theorem exists_finish_prolog {typed : Bool} {text : List Char} (h : IsProlog typed text)
    (atStart : Bool) :
    ∃ atStart' typed', ∀ rest,
      (outside atStart typed).finish (text ++ rest) = (outside atStart' typed').finish rest := by
  induction h generalizing atStart with
  | @nil typed => exact ⟨atStart, typed, fun _ ↦ rfl⟩
  | @blank typed c text hc _ ih =>
    have hstep : (outside atStart typed).step c = some (.more (outside false typed)) := by
      rw [step, isTextChar_of_isBlank hc]
      exact (if_neg (ne_of_isBlank hc rfl)).trans (if_pos hc)
    have hblank (rest : List Char) :
        (outside atStart typed).finish ([c] ++ rest) = (outside false typed).finish rest := by
      rw [List.singleton_append, finish_cons, hstep, goOn]
    exact exists_finish_append hblank (ih false)
  | @comment typed comment text hcomment _ ih =>
    exact exists_finish_append (finish_of_isComment (r := outside atStart typed) hcomment 0)
      (ih false)
  | @instruction typed instruction text hinstruction _ ih =>
    exact exists_finish_append (finish_of_isInstruction (r := outside atStart typed) hinstruction 0)
      (ih false)
  | @doctype doctype text hdoctype _ ih =>
    rw [← List.append_assoc]
    refine exists_finish_append (fun rest ↦ ?_) (ih false)
    rw [List.append_assoc]
    exact finish_doctype (r := outside false true) hdoctype rfl .between rest

theorem read_eq_some {document : List Char} {root : Markup}
    (h : start.finish document = some root) : read document = some root := by
  unfold read
  split
  · rw [finish_cons] at h
    cases h
  · exact h

end Reader

/-- A document that was written is read as its root. -/
theorem read_of_writesDocument {text : List Char} {root : Markup} (h : WritesDocument text root) :
    read text = some root := by
  obtain ⟨mark, declaration, prolog, start, body, rest, name, attributes, content, rfl, hmark,
    hdeclaration, hprolog, hstart, hbody, rfl⟩ := h.written
  have hroot (atStart typed : Bool) :
      (Reader.outside atStart typed).finish (start ++ (body ++ rest)) =
        some (.element name (ownAttributes attributes) content) := by
    obtain ⟨place, hplace, hfinish⟩ :=
      Reader.exists_finish_start (r := .outside atStart typed) hstart 0
    exact (hfinish _).trans (Reader.finish_body (r := .outside atStart typed) hbody hstart
      (List.append_nil _) hplace rest)
  have hread : Reader.start.finish (declaration ++ (prolog ++ (start ++ (body ++ rest)))) =
      some (.element name (ownAttributes attributes) content) := by
    rcases hdeclaration with rfl | hdeclaration
    · obtain ⟨atStart, typed, hfinish⟩ := Reader.exists_finish_prolog hprolog true
      exact (hfinish _).trans (hroot atStart typed)
    · obtain ⟨atStart, typed, hfinish⟩ := Reader.exists_finish_prolog hprolog false
      rw [Reader.finish_of_writesDeclaration hdeclaration, hfinish, hroot]
  rcases hmark with rfl | rfl
  · exact Reader.read_eq_some hread
  · exact hread

end Introspection.Markup
