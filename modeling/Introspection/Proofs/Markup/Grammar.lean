import Introspection.Markup.Reader
import Mathlib.Data.Nat.Digits.Defs

/-!
# Written documents

The texts of a document, with everything that its author is free to choose: the blanks, the quotes,
the references, the form of empty elements, and the comments, instructions and verbatim sections in
between. Elements and attributes carry the scopes that are bound where they stand.
-/

namespace Introspection.Markup

/-! ## Characters and names -/

def IsText (text : List Char) : Prop :=
  ∀ c ∈ text, isTextChar c = true

def IsBlankText (text : List Char) : Prop :=
  ∀ c ∈ text, isBlank c = true

/-- A scope, or a base name. -/
structure IsNamePart (text : List Char) : Prop where
  head : text.head?.any isNameStart = true
  chars : ∀ c ∈ text, isNameChar c = true ∧ c ≠ ':'

def Name.text (name : Name) : List Char :=
  match name.scope with
  | none => name.base.toList
  | some scope => scope.toList ++ ':' :: name.base.toList

structure Name.IsLegal (name : Name) : Prop where
  scope : ∀ scope, name.scope = some scope → IsNamePart scope.toList
  base : IsNamePart name.base.toList

/-! ## References -/

/-- The digits of a number, with letters of either case from ten on. -/
def WritesNumber (base : Nat) (text : List Char) (n : Nat) : Prop :=
  text ≠ [] ∧ ∃ digits : List Nat,
    List.Forall₂ (fun c d ↦ d < base ∧ (c = d.digitChar ∨ c = d.digitChar.toUpper)) text digits ∧
      n = Nat.ofDigits base digits.reverse

/-- What stands between `&` and `;` for a character. -/
inductive Refers : List Char → Char → Prop
  | lt : Refers ['l', 't'] '<'
  | gt : Refers ['g', 't'] '>'
  | amp : Refers ['a', 'm', 'p'] '&'
  | apos : Refers ['a', 'p', 'o', 's'] '\''
  | quot : Refers ['q', 'u', 'o', 't'] '"'
  | decimal {digits : List Char} {c : Char} : WritesNumber 10 digits c.toNat →
      isTextChar c = true → Refers ('#' :: digits) c
  | hexadecimal {digits : List Char} {c : Char} : WritesNumber 16 digits c.toNat →
      isTextChar c = true → Refers ('#' :: 'x' :: digits) c

/-! ## Attributes -/

/-- The value of an attribute between two quotes. -/
inductive WritesValue (quote : Char) : List Char → List Char → Prop
  | nil : WritesValue quote [] []
  | char {c : Char} {text value : List Char} : isTextChar c = true → c ∉ [quote, '<', '&'] →
      WritesValue quote text value → WritesValue quote (c :: text) (c :: value)
  | reference {reference : List Char} {c : Char} {text value : List Char} : Refers reference c →
      WritesValue quote text value →
      WritesValue quote ('&' :: (reference ++ ';' :: text)) (c :: value)

/-- Attributes with a blank before each of them. -/
inductive WritesAttributes : List Char → List (Name × String) → Prop
  | nil : WritesAttributes [] []
  | cons {gap before after written text : List Char} {name : Name} {quote : Char} {value : String}
      {attributes : List (Name × String)} :
      gap ≠ [] → IsBlankText gap → name.IsLegal → IsBlankText before → IsBlankText after →
      quote ∈ ['"', '\''] → WritesValue quote written value.toList →
      WritesAttributes text attributes →
      WritesAttributes
        (gap ++ (name.text ++ (before ++ '=' :: (after ++ quote :: (written ++ quote :: text)))))
        ((name, value) :: attributes)

/-! ## Tags -/

/-- The scopes that attributes bind. -/
def boundScopes (attributes : List (Name × String)) : List String :=
  (attributes.filter fun a ↦ a.1.scope == some "xmlns").map fun a ↦ a.1.base

/-- The attributes that bind no scopes are those of the element. -/
def ownAttributes (attributes : List (Name × String)) : List (Name × String) :=
  attributes.filter fun a ↦ !a.1.bindsScope

/-- A start tag up to its closing mark. -/
structure WritesStart (scopes : List String) (text : List Char) (name : Name)
    (attributes : List (Name × String)) : Prop where
  written : ∃ between blanks, text = '<' :: (name.text ++ (between ++ blanks)) ∧
    WritesAttributes between attributes ∧ IsBlankText blanks
  legal : name.IsLegal
  distinct : (attributes.map Prod.fst).Nodup
  bindings : ∀ a ∈ attributes, a.1.scope = some "xmlns" →
    a.1.base ≠ "xmlns" ∧ a.1.base ≠ "xml" ∧ a.2 ≠ ""
  attributesInScope : ∀ a ∈ attributes, ∀ scope, a.1.scope = some scope →
    scope = "xmlns" ∨ scope = "xml" ∨ scope ∈ boundScopes attributes ++ scopes
  nameInScope : ∀ scope, name.scope = some scope →
    scope ≠ "xml" ∧ scope ∈ boundScopes attributes ++ scopes

structure WritesEnd (text : List Char) (name : Name) : Prop where
  written : ∃ blanks, text = '<' :: '/' :: (name.text ++ (blanks ++ ['>'])) ∧ IsBlankText blanks

/-! ## Between tags -/

/-- Two hyphens do not stand in a comment, not even together with its end. -/
structure IsComment (text : List Char) : Prop where
  written : ∃ body, text = ['<', '!', '-', '-'] ++ (body ++ ['-', '-', '>']) ∧ IsText body ∧
    ¬ ['-', '-'] <:+: body ++ ['-']

/-- The target of an instruction is not `xml`, in whatever case. -/
structure IsInstruction (text : List Char) : Prop where
  written : ∃ target body, text = ['<', '?'] ++ (target ++ (body ++ ['?', '>'])) ∧
    IsNamePart target ∧ target.map Char.toLower ≠ ['x', 'm', 'l'] ∧ IsText body ∧
    (∀ c, body.head? = some c → isBlank c = true) ∧ ¬ ['?', '>'] <:+: target ++ body

/-- A section whose characters stand for themselves. -/
structure WritesVerbatim (text body : List Char) : Prop where
  written : text = ['<', '!', '[', 'C', 'D', 'A', 'T', 'A', '['] ++ (body ++ [']', ']', '>'])
  chars : IsText body
  unbroken : ¬ [']', ']', '>'] <:+: body

/-! ## Content -/

/-- A run of text makes up a node unless it is empty. -/
def runNodes (run : List Char) : List Markup :=
  if run.isEmpty then [] else [.text (String.ofList run)]

mutual

/-- What follows the attributes of an element, up to its end. -/
inductive WritesBody : List String → Name → List Char → List Markup → Prop
  | closed {scopes : List String} {name : Name} : WritesBody scopes name ['/', '>'] []
  | opened {scopes : List String} {name : Name} {inner ending : List Char} {nodes : List Markup} :
      WritesContent scopes [] inner nodes → WritesEnd ending name →
      WritesBody scopes name ('>' :: (inner ++ ending)) nodes

/-- The content of an element, where a run of text may have begun before. Elements and instructions
end a run, but comments and verbatim sections do not. -/
inductive WritesContent : List String → List Char → List Char → List Markup → Prop
  | nil {scopes : List String} {run : List Char} : WritesContent scopes run [] (runNodes run)
  | char {scopes : List String} {run text : List Char} {nodes : List Markup} {c : Char} :
      isTextChar c = true → c ∉ ['<', '&'] → ¬ [']', ']', '>'] <+: c :: text →
      WritesContent scopes (run ++ [c]) text nodes → WritesContent scopes run (c :: text) nodes
  | reference {scopes : List String} {run reference text : List Char} {nodes : List Markup}
      {c : Char} : Refers reference c → WritesContent scopes (run ++ [c]) text nodes →
      WritesContent scopes run ('&' :: (reference ++ ';' :: text)) nodes
  | comment {scopes : List String} {run comment text : List Char} {nodes : List Markup} :
      IsComment comment → WritesContent scopes run text nodes →
      WritesContent scopes run (comment ++ text) nodes
  | verbatim {scopes : List String} {run written body text : List Char} {nodes : List Markup} :
      WritesVerbatim written body → WritesContent scopes (run ++ body) text nodes →
      WritesContent scopes run (written ++ text) nodes
  | instruction {scopes : List String} {run instruction text : List Char} {nodes : List Markup} :
      IsInstruction instruction → WritesContent scopes [] text nodes →
      WritesContent scopes run (instruction ++ text) (runNodes run ++ nodes)
  | element {scopes : List String} {run start body text : List Char} {name : Name}
      {attributes : List (Name × String)} {content nodes : List Markup} :
      WritesStart scopes start name attributes →
      WritesBody (boundScopes attributes ++ scopes) name body content →
      WritesContent scopes [] text nodes →
      WritesContent scopes run (start ++ (body ++ text))
        (runNodes run ++ .element name (ownAttributes attributes) content :: nodes)

end

/-! ## Documents -/

/-- A field of a declaration. -/
structure WritesField (name value : String) (text : List Char) : Prop where
  written : ∃ gap before after quote,
    text = gap ++ (name.toList ++
      (before ++ '=' :: (after ++ quote :: (value.toList ++ [quote])))) ∧
      gap ≠ [] ∧ IsBlankText gap ∧ IsBlankText before ∧ IsBlankText after ∧ quote ∈ ['"', '\'']

/-- A declaration names a version, and may name an encoding and whether the document stands
alone. -/
structure WritesDeclaration (text : List Char) : Prop where
  written : ∃ version encoding standalone blanks,
    text = ['<', '?', 'x', 'm', 'l'] ++
      (version ++ (encoding ++ (standalone ++ (blanks ++ ['?', '>'])))) ∧
      (∃ value ∈ ["1.0", "1.1"], WritesField "version" value version) ∧
      (encoding = [] ∨ ∃ value ∈ encodings, WritesField "encoding" value encoding) ∧
      (standalone = [] ∨ ∃ value ∈ ["yes", "no"], WritesField "standalone" value standalone) ∧
      IsBlankText blanks

/-- The text goes on as if a comment or an instruction had been opened before it. -/
def ContinuesMark (text : List Char) : Prop :=
  ['!', '-', '-'] <+: text ∨ ['?'] <+: text

/-- A document type behind its keyword, outside or inside of its subset. -/
inductive EndsDoctype : Bool → List Char → Prop
  | close : EndsDoctype false ['>']
  | char {subset : Bool} {c : Char} {text : List Char} : isTextChar c = true →
      c ∉ ['"', '\'', '[', ']'] → (c = '>' → subset = true) →
      (c = '<' → subset = true → ¬ ContinuesMark text) → EndsDoctype subset text →
      EndsDoctype subset (c :: text)
  | literal {subset : Bool} {quote : Char} {value text : List Char} : quote ∈ ['"', '\''] →
      IsText value → quote ∉ value → EndsDoctype subset text →
      EndsDoctype subset (quote :: (value ++ quote :: text))
  | comment {comment text : List Char} : IsComment comment → EndsDoctype true text →
      EndsDoctype true (comment ++ text)
  | instruction {instruction text : List Char} : IsInstruction instruction →
      EndsDoctype true text → EndsDoctype true (instruction ++ text)
  | openSubset {text : List Char} : EndsDoctype true text → EndsDoctype false ('[' :: text)
  | closeSubset {text : List Char} : EndsDoctype false text → EndsDoctype true (']' :: text)

/-- What stands before the root, where at most one document type may follow. -/
inductive IsProlog : Bool → List Char → Prop
  | nil {typed : Bool} : IsProlog typed []
  | blank {typed : Bool} {c : Char} {text : List Char} : isBlank c = true → IsProlog typed text →
      IsProlog typed (c :: text)
  | comment {typed : Bool} {comment text : List Char} : IsComment comment → IsProlog typed text →
      IsProlog typed (comment ++ text)
  | instruction {typed : Bool} {instruction text : List Char} : IsInstruction instruction →
      IsProlog typed text → IsProlog typed (instruction ++ text)
  | doctype {doctype text : List Char} : EndsDoctype false doctype → IsProlog true text →
      IsProlog false (['<', '!', 'D', 'O', 'C', 'T', 'Y', 'P', 'E'] ++ (doctype ++ text))

/-- A document, which may begin with a byte order mark. Nothing is asked of what follows its root
element. -/
structure WritesDocument (text : List Char) (root : Markup) : Prop where
  written : ∃ mark declaration prolog start body rest name attributes content,
    text = mark ++ (declaration ++ (prolog ++ (start ++ (body ++ rest)))) ∧
      (mark = [] ∨ mark = ['\ufeff']) ∧ (declaration = [] ∨ WritesDeclaration declaration) ∧
      IsProlog false prolog ∧ WritesStart [] start name attributes ∧
      WritesBody (boundScopes attributes) name body content ∧
      root = .element name (ownAttributes attributes) content

end Introspection.Markup
