import Introspection.Proofs.Identifier.Bridges
import Introspection.Proofs.Identifier.Repair

/-!
# Which names have identifiers

A name within ASCII has an identifier exactly if nothing bridges two of its letters or digits. The
identifier is then no keyword of generated code, but for the keywords that are not reserved. These
can be the identifiers of members only, since they are written in small letters and the name of a
type is not.
-/

namespace Introspection.Identifier

open Text

variable {name : String} {c : Char} {cs ident : List Char}

/-! ## Names in their final case -/

theorem forall_isPlain_parts_iff (h : IsAsciiName name) :
    (∀ part ∈ parts name, ∀ c ∈ part, IsPlain c) ↔ ¬ HasBridge name.toList := by
  rw [← forall_isPlain_words_iff h, ← List.forall_mem_flatten, ← List.forall_mem_flatten,
    flatten_parts]
  simp only [List.mem_filter, decide_eq_true_eq]
  constructor
  · intro hparts c hc
    by_cases hunderscore : c = '_'
    · exact .inr hunderscore
    · exact hparts c ⟨hc, hunderscore⟩
  · intro hwords c hc
    exact hwords c hc.1

/-- What a member can be named with: small letters, digits and underscores. -/
def IsMemberChar (c : Char) : Prop :=
  IsSmall c ∨ c = '_'

instance : DecidablePred IsMemberChar :=
  fun _ ↦ inferInstanceAs (Decidable (_ ∨ _))

theorem isMemberChar_of_mem_snakeCase (h : IsAsciiName name)
    (hplain : ∀ part ∈ parts name, ∀ c ∈ part, IsPlain c) :
    ∀ c ∈ snakeCase name, IsMemberChar c := by
  have hsmall (c : Char) (hc : IsPlain c) : IsMemberChar c.toLower :=
    forall_isAscii (P := fun c ↦ IsPlain c → IsMemberChar c.toLower) (by decide) c
      (isAscii_of_isPlain hc) hc
  rw [snakeCase, forall_mem_intercalate_iff (List.forall_mem_singleton.2 (.inr rfl)),
    List.forall_mem_map]
  intro part hpart
  rw [lowered_eq_map (isAscii_of_mem_parts h hpart), List.forall_mem_map]
  exact fun c hc ↦ hsmall c (hplain part hpart c hc)

theorem isLower_head?_camelCase (h : IsAsciiName name) :
    ∀ c ∈ (camelCase name).head?, c.isLower = false := by
  have hupper (c : Char) (hc : isAscii c = true) : c.toUpper.isLower = false :=
    forall_isAscii (P := fun c ↦ c.toUpper.isLower = false) (by decide) c hc
  have hparts : ∀ part ∈ parts name, ∀ c ∈ part, isAscii c = true :=
    fun _ hpart ↦ isAscii_of_mem_parts h hpart
  rw [camelCase]
  generalize parts name = parts at hparts
  induction parts with
  | nil =>
    intro c hc
    cases hc
  | cons part parts ih =>
    rw [List.forall_mem_cons] at hparts
    cases part with
    | nil => exact ih hparts.2
    | cons a part =>
      have ha : isAscii a = true := hparts.1 a List.mem_cons_self
      rw [List.flatMap_cons, capitalised_cons ha]
      intro c hc
      cases hc
      exact hupper a ha

/-! ## Keywords -/

/-- The words that the language of generated code keeps for itself. -/
def keywords : List String :=
  ["abstract", "as", "async", "await", "become", "box", "break", "const", "continue", "crate", "do",
    "dyn", "else", "enum", "extern", "false", "final", "fn", "for", "if", "impl", "in", "let",
    "loop", "macro", "match", "mod", "move", "mut", "override", "priv", "pub", "ref", "return",
    "self", "Self", "static", "struct", "super", "trait", "true", "try", "type", "typeof", "unsafe",
    "unsized", "use", "virtual", "where", "while", "yield"]

/-- The keywords that repair does not know of. -/
def unreservedKeywords : List String :=
  ["async", "await", "dyn", "try"]

theorem mem_keywords_iff {word : String} (h : isReserved word.toList = false) :
    word ∈ keywords ↔ word ∈ unreservedKeywords := by
  have hkeywords : ∀ word ∈ keywords,
      isReserved word.toList = true ∨ word ∈ unreservedKeywords := by
    decide
  have hsubset : ∀ word ∈ unreservedKeywords, word ∈ keywords := by decide
  constructor
  · intro hword
    exact (hkeywords word hword).resolve_left (by simp [h])
  · exact hsubset word

/-! ## Valid identifiers -/

/-- What generated code can use as a name, written in the given characters. -/
structure IsValid (IsAllowed : Char → Prop) (ident : String) : Prop where
  ne_empty : ident ≠ ""
  allowed : ∀ c ∈ ident.toList, IsAllowed c
  head_not_digit : ∀ c ∈ ident.toList.head?, c.isDigit = false
  ne_underscore : ident ≠ "_"

/-- Repair keeps to the characters of a name, underscores and the word for the empty name apart. -/
theorem isValid_repaired {IsAllowed : Char → Prop} (hcs : ∀ c ∈ cs, IsAllowed c)
    (hunderscore : IsAllowed '_') (hunnamed : ∀ c ∈ "unnamed".toList, IsAllowed c) :
    IsValid IsAllowed (String.ofList (repaired cs)) := by
  refine ⟨?_, ?_, ?_, ?_⟩
  · intro hempty
    exact repaired_ne_nil cs (String.ofList_injective hempty)
  · rw [String.toList_ofList]
    exact (forall_mem_repaired_iff hunderscore hunnamed).2 hcs
  · rw [String.toList_ofList]
    exact isDigit_head?_repaired cs
  · intro hlone
    have hreserved : isReserved ['_'] = false :=
      String.ofList_injective (hlone : _ = String.ofList ['_']) ▸ isReserved_repaired cs
    cases hreserved

theorem ofList_repaired_mem_keywords_iff :
    String.ofList (repaired cs) ∈ keywords ↔ String.ofList (repaired cs) ∈ unreservedKeywords := by
  apply mem_keywords_iff
  rw [String.toList_ofList]
  exact isReserved_repaired cs

/-- An identifier of a type starts like a capitalised word, if not with an underscore or a letter
that has no small form. -/
theorem ofList_repaired_camelCase_not_mem (h : IsAsciiName name) :
    String.ofList (repaired (camelCase name)) ∉ unreservedKeywords := by
  have hwords : ∀ word ∈ unreservedKeywords, '_' ∉ word.toList ∧ word ≠ "unnamed" ∧
      word.toList.head?.any Char.isLower = true := by
    decide
  intro hmem
  obtain ⟨hunderscore, hunnamed, hhead⟩ := hwords _ hmem
  rw [String.toList_ofList] at hunderscore hhead
  -- Nothing was added, so the word is the name itself or the word for the empty name.
  obtain ⟨front, back, hadded, hrepaired⟩ := exists_repaired_eq (camelCase name)
  have hnone : front ++ back = [] := by
    apply List.eq_nil_iff_forall_not_mem.2
    intro c hc
    apply hunderscore
    rw [← hadded c hc, hrepaired]
    rcases List.mem_append.1 hc with hc | hc <;> simp [hc]
  obtain ⟨rfl, rfl⟩ := List.append_eq_nil_iff.1 hnone
  rw [List.nil_append, List.append_nil] at hrepaired
  by_cases hempty : camelCase name = []
  · apply hunnamed
    rw [hrepaired, hempty, named_nil, String.ofList_toList]
  · rw [hrepaired, named_of_ne_nil hempty] at hhead
    obtain ⟨c, hc, hlower⟩ := (Option.any_eq_true _ _).1 hhead
    cases hlower.symm.trans (isLower_head?_camelCase h c hc)

/-! ## Names of members and of types -/

theorem mem_of_mem_lastSegment (hc : c ∈ (lastSegment name).toList) :
    c ∈ name.toList ∧ c ≠ '.' := by
  rw [lastSegment, String.toList_ofList, List.mem_reverse] at hc
  have hdot : (c != '.') = true := List.all_eq_true.1 List.all_takeWhile c hc
  exact ⟨List.mem_reverse.1 ((List.takeWhile_subset _) hc), by simpa using hdot⟩

theorem isAsciiName_lastSegment (h : IsAsciiName name) : IsAsciiName (lastSegment name) :=
  fun c hc ↦ h c (mem_of_mem_lastSegment hc).1

theorem ofMember?_eq_none_iff (h : IsAsciiName name) :
    ofMember? name = none ↔ HasBridge name.toList := by
  have hsnake : ∀ c ∈ snakeCase name, isAscii c = true :=
    (forall_mem_snakeCase_iff ignoresCase_isAscii rfl h).2 fun _ ↦ isAscii_of_mem_parts h
  rw [ofMember?, Option.map_eq_none_iff, repair?_eq_none_iff hsnake,
    forall_mem_snakeCase_iff ignoresCase_isPlain (.inr rfl) h, forall_isPlain_parts_iff h,
    Classical.not_not]

theorem ofInterface?_eq_none_iff (h : IsAsciiName name) :
    ofInterface? name = none ↔ HasBridge (lastSegment name).toList := by
  have hlast : IsAsciiName (lastSegment name) := isAsciiName_lastSegment h
  have hcamel : ∀ c ∈ camelCase (lastSegment name), isAscii c = true :=
    (forall_mem_camelCase_iff ignoresCase_isAscii hlast).2 fun _ ↦ isAscii_of_mem_parts hlast
  rw [ofInterface?, Option.map_eq_none_iff, repair?_eq_none_iff hcamel,
    forall_mem_camelCase_iff ignoresCase_isPlain hlast, forall_isPlain_parts_iff hlast,
    Classical.not_not]

theorem isValid_of_ofMember?_eq_some {ident : String} (h : IsAsciiName name)
    (hident : ofMember? name = some ident) :
    IsValid IsMemberChar ident ∧ (ident ∈ keywords ↔ ident ∈ unreservedKeywords) := by
  have hbridge : ¬ HasBridge name.toList := by
    rw [← ofMember?_eq_none_iff h, hident]
    exact nofun
  have hsnake : ∀ c ∈ snakeCase name, IsMemberChar c :=
    isMemberChar_of_mem_snakeCase h ((forall_isPlain_parts_iff h).2 hbridge)
  have hunnamed : ∀ c ∈ "unnamed".toList, IsMemberChar c := List.all_iff_forall_prop.1 (by decide)
  obtain ⟨cs, hrepair, rfl⟩ := Option.map_eq_some_iff.1 hident
  rw [← repaired_eq_of_repair?_eq_some hrepair]
  exact ⟨isValid_repaired hsnake (.inr rfl) hunnamed, ofList_repaired_mem_keywords_iff⟩

theorem isValid_of_ofInterface?_eq_some {ident : String} (h : IsAsciiName name)
    (hident : ofInterface? name = some ident) : IsValid IsPlain ident ∧ ident ∉ keywords := by
  have hlast : IsAsciiName (lastSegment name) := isAsciiName_lastSegment h
  have hbridge : ¬ HasBridge (lastSegment name).toList := by
    rw [← ofInterface?_eq_none_iff h, hident]
    exact nofun
  have hcamel : ∀ c ∈ camelCase (lastSegment name), IsPlain c :=
    (forall_mem_camelCase_iff ignoresCase_isPlain hlast).2
      ((forall_isPlain_parts_iff hlast).2 hbridge)
  have hunnamed : IsPlainName "unnamed" := by decide
  obtain ⟨cs, hrepair, rfl⟩ := Option.map_eq_some_iff.1 hident
  rw [← repaired_eq_of_repair?_eq_some hrepair, ofList_repaired_mem_keywords_iff]
  exact ⟨isValid_repaired hcamel (.inr rfl) hunnamed, ofList_repaired_camelCase_not_mem hlast⟩

/-- Within ASCII, a name has no identifier exactly if it holds a bridge, and a name of a type only
counts from its last dot on. Every identifier is valid, and is no keyword unless it is one of those
that are not reserved, which the identifier of a type never is. So plain names have identifiers. -/
theorem identifiers_valid_off_bridges (h : IsAsciiName name) :
    (ofMember? name = none ↔ HasBridge name.toList) ∧
    (∀ ident, ofMember? name = some ident →
      IsValid IsMemberChar ident ∧ (ident ∈ keywords ↔ ident ∈ unreservedKeywords)) ∧
    (ofInterface? name = none ↔ HasBridge (lastSegment name).toList) ∧
    (∀ ident, ofInterface? name = some ident → IsValid IsPlain ident ∧ ident ∉ keywords) ∧
    (IsPlainName name → ∃ ident, ofMember? name = some ident) ∧
    ((∀ c ∈ name.toList, IsPlain c ∨ c = '.') → ∃ ident, ofInterface? name = some ident) := by
  refine ⟨ofMember?_eq_none_iff h, fun _ ↦ isValid_of_ofMember?_eq_some h,
    ofInterface?_eq_none_iff h, fun _ ↦ isValid_of_ofInterface?_eq_some h,
    exists_ofMember?_eq_some, fun hplain ↦ ?_⟩
  have hlast : ∀ c ∈ (lastSegment name).toList, IsPlain c := by
    intro c hc
    obtain ⟨hmem, hdot⟩ := mem_of_mem_lastSegment hc
    exact (hplain c hmem).resolve_right hdot
  apply Option.ne_none_iff_exists'.1
  rw [Ne, ofInterface?_eq_none_iff h]
  exact not_hasBridge_of_isPlain hlast

/-- A dot between a letter and a digit bridges nothing. -/
theorem identifiers_valid_off_bridges_fade :
    IsAsciiName "Fade.2Way" ∧ ofMember? "Fade.2Way" = some "fade_2way" ∧
      ¬ HasBridge "Fade.2Way".toList ∧ IsValid IsMemberChar "fade_2way" ∧
      "fade_2way" ∉ keywords ∧ ofInterface? "Fade.2Way" = some "_2way" ∧
      IsValid IsPlain "_2way" ∧ "_2way" ∉ keywords := by
  have hascii : IsAsciiName "Fade.2Way" := by decide
  have hmember : ofMember? "Fade.2Way" = some "fade_2way" := by decide
  have htype : ofInterface? "Fade.2Way" = some "_2way" := by decide
  obtain ⟨hnone, hvalid, -, hvalid', -⟩ := identifiers_valid_off_bridges hascii
  have hbridge : ¬ HasBridge "Fade.2Way".toList := by
    rw [← hnone, hmember]
    exact nofun
  exact ⟨hascii, hmember, hbridge, (hvalid _ hmember).1, by decide, htype, hvalid' _ htype⟩

/-- A keyword that is not reserved is its own identifier. -/
theorem exists_member_identifier_mem_keywords :
    ofMember? "dyn" = some "dyn" ∧
      ¬ ∀ name, IsAsciiName name → ∀ ident, ofMember? name = some ident → ident ∉ keywords := by
  have hdyn : ofMember? "dyn" = some "dyn" := by decide
  exact ⟨hdyn, fun h ↦ h "dyn" (by decide) "dyn" hdyn (by decide)⟩

end Introspection.Identifier
