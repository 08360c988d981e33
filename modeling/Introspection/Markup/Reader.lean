import Introspection.Markup.Syntax

/-!
# Reading markup

A document is read one character at a time, with the elements that are still open kept on a
stack, and reading ends with the root element. Comments, processing instructions and a document
type, with comments and instructions of its own, are passed over. A run of text goes on across
comments and verbatim sections and ends at the next tag or instruction.
-/

namespace Introspection.Markup

/-! ## State -/

structure StartTag where
  name : Name
  /-- The attributes read so far, the latest one first. -/
  attributes : List (Name × String)

/-- Where in the syntax the next character stands. What has been seen of a piece is kept with its
last character first. -/
inductive Place
  /-- In text, behind the given number of closing brackets, of which at most two are counted. -/
  | text (brackets : Nat)
  | reference (seen : List Char)
  /-- Behind `<`. -/
  | opened
  /-- Behind `<!`, with what follows it. -/
  | keyword (seen : List Char)
  /-- In a comment, of a document type or not, behind the given number of hyphens. -/
  | comment (inType : Bool) (hyphens : Nat)
  | verbatim (seen : List Char)
  | doctype (quote : Option Char) (subset : Bool)
  /-- In the subset of a document type, behind `<`, with what follows it. -/
  | typeMark (seen : List Char)
  | instruction (inType : Bool) (seen : List Char)
  | startName (seen : List Char)
  | startTag (tag : StartTag)
  | attributeName (tag : StartTag) (seen : List Char)
  | afterAttributeName (tag : StartTag) (name : Name)
  | beforeValue (tag : StartTag) (name : Name)
  | value (tag : StartTag) (name : Name) (quote : Char) (seen : List Char)
  | valueReference (tag : StartTag) (name : Name) (quote : Char) (seen reference : List Char)
  | afterValue (tag : StartTag)
  /-- Behind the `/` that ends an empty element. -/
  | emptyTag (tag : StartTag)
  | endName (seen : List Char)
  | afterEndName (name : Name)

structure OpenElement where
  name : Name
  attributes : List (Name × String)
  /-- The scopes that names may use. -/
  scopes : List String
  /-- What has been read of the content, the latest node first. -/
  content : List Markup

structure Reader where
  place : Place
  /-- Whether nothing has been read yet. -/
  atStart : Bool
  /-- Whether a document type has been read. -/
  typed : Bool
  /-- The open elements, the innermost one first. -/
  stack : List OpenElement
  /-- The current run of text, its last character first. -/
  run : List Char

/-- A document is read further until its root element is complete. -/
inductive Outcome
  | more (r : Reader)
  | done (root : Markup)

/-! ## The declaration of a document -/

/-- The value of a named field at the start of a declaration, and what follows it. -/
def field? (name : String) (cs : List Char) : Option (String × List Char) :=
  let word := cs.dropWhile isBlank
  if !(cs.head?.any isBlank && name.toList.isPrefixOf word) then none
  else
    match (word.drop name.length).dropWhile isBlank with
    | '=' :: rest =>
      match rest.dropWhile isBlank with
      | [] => none
      | quote :: rest =>
        let value := rest.takeWhile (· != quote)
        if (quote == '"' || quote == '\'') && value.length < rest.length then
          some (String.ofList value, rest.drop (value.length + 1))
        else none
    | _ => none

/-- What follows a field, which may be missing but must have one of the given values. -/
def skipField? (name : String) (values : List String) (cs : List Char) : Option (List Char) :=
  match field? name cs with
  | none => some cs
  | some (value, rest) => if values.contains value then some rest else none

/-- The encodings in which a declaration reads as it does in ASCII. -/
def encodings : List String :=
  ["UTF-8", "utf-8", "UTF8", "utf8", "US-ASCII", "us-ascii", "ASCII", "ascii", "ISO-8859-1",
    "iso-8859-1", "latin1"]

/-- Whether a text is a version, followed by an encoding and by a mark for documents that stand
alone, both of which may be missing. The characters of the document are known already, so nothing
depends on which encoding is named. -/
def isDeclaration (cs : List Char) : Bool :=
  Option.isSome do
    let (version, rest) ← field? "version" cs
    guard (["1.0", "1.1"].contains version)
    let rest ← skipField? "encoding" encodings rest
    let rest ← skipField? "standalone" ["yes", "no"] rest
    guard (rest.all isBlank)

/-! ## Scopes -/

/-- The attributes that bind scopes: `xmlns` itself and all names in its scope. -/
def Name.bindsScope (name : Name) : Bool :=
  name.scope == some "xmlns" || name.scope == none && name.base == "xmlns"

/-- A scope is bound to a text that is not empty, and the two scopes that every document has
cannot be bound anew. -/
def isBinding (name : Name) (value : String) : Bool :=
  name.scope == none || name.base != "xmlns" && name.base != "xml" && !value.isEmpty

def inScope (scopes : List String) (name : Name) : Bool :=
  name.scope.all fun scope ↦ scope == "xml" || scopes.contains scope

namespace Reader

def start : Reader :=
  ⟨.text 0, true, false, [], []⟩

def move (r : Reader) (place : Place) : Option Outcome :=
  some (.more { r with place })

/-- Goes back to the text between markup. -/
def resume (r : Reader) : Option Outcome :=
  some (.more { r with place := .text 0, atStart := false })

/-- Goes back to where a comment or an instruction stands. -/
def leave (r : Reader) (inType : Bool) : Option Outcome :=
  if inType then r.move (.doctype none true) else r.resume

/-! ## Elements -/

/-- Adds a node to the innermost open element. -/
def addNode (node : Markup) : List OpenElement → List OpenElement
  | [] => []
  | e :: stack => { e with content := node :: e.content } :: stack

/-- Ends the current run of text. -/
def endRun (r : Reader) : Reader :=
  if r.run.isEmpty then r
  else { r with stack := addNode (.text (String.ofList r.run.reverse)) r.stack, run := [] }

/-- Opens an element if its attributes differ in their names and all scopes are bound. -/
def openElement (r : Reader) (tag : StartTag) : Option Reader :=
  let r := r.endRun
  let (bindings, attributes) := tag.attributes.reverse.partition fun a ↦ a.1.bindsScope
  let bound := bindings.filterMap fun a ↦ a.1.scope.map fun _ ↦ a.1.base
  let scopes := bound ++ ((r.stack.head?.map OpenElement.scopes).getD [])
  if bindings.all (fun a ↦ isBinding a.1 a.2) && (attributes.map Prod.fst).Nodup &&
      attributes.all (fun a ↦ inScope scopes a.1) && tag.name.scope != some "xml" &&
      inScope scopes tag.name then
    some { r with stack := ⟨tag.name, attributes, scopes, []⟩ :: r.stack }
  else none

/-- Closes the innermost open element. -/
def closeElement (r : Reader) (name : Name) : Option Outcome :=
  let r := r.endRun
  match r.stack with
  | [] => none
  | e :: stack =>
    if e.name = name then
      let node := Markup.element e.name e.attributes e.content.reverse
      if stack.isEmpty then some (.done node) else { r with stack := addNode node stack }.resume
    else none

/-! ## One character -/

/-- Between the parts of a start tag, where a blank may stand. -/
def betweenParts (r : Reader) (tag : StartTag) (c : Char) : Option Outcome :=
  if isBlank c then r.move (.startTag tag)
  else if c = '>' then do (← r.openElement tag).resume
  else if c = '/' then r.move (.emptyTag tag)
  else none

/-- The end mark of verbatim sections must not stand in text. -/
def readText (r : Reader) (brackets : Nat) (c : Char) : Option Outcome :=
  if c = '<' then r.move .opened
  else if r.stack.isEmpty then
    if isBlank c then r.resume else none
  else if c = '&' then r.move (.reference [])
  else if c = ']' then { r with run := c :: r.run }.move (.text (min 2 (brackets + 1)))
  else if c = '>' && brackets == 2 then none
  else { r with run := c :: r.run }.move (.text 0)

def readOpened (r : Reader) (c : Char) : Option Outcome :=
  if c = '!' then r.move (.keyword [])
  else if c = '?' then r.move (.instruction false [])
  else if c = '/' then r.move (.endName [])
  else if isNameStart c then r.move (.startName [c])
  else none

/-- Verbatim sections stand in elements, and a document type before the root. -/
def readKeyword (r : Reader) (seen : List Char) (c : Char) : Option Outcome :=
  let word := (c :: seen).reverse
  if word = "--".toList then r.move (.comment false 0)
  else if word = "[CDATA[".toList then
    if r.stack.isEmpty then none else r.move (.verbatim [])
  else if word = "DOCTYPE".toList then
    if r.stack.isEmpty && !r.typed then
      { r with typed := true, atStart := false }.move (.doctype none false)
    else none
  else if ["--", "[CDATA[", "DOCTYPE"].any fun keyword ↦ word.isPrefixOf keyword.toList then
    r.move (.keyword (c :: seen))
  else none

/-- Two hyphens stand in a comment only at its end. -/
def readComment (r : Reader) (inType : Bool) (hyphens : Nat) (c : Char) : Option Outcome :=
  if hyphens = 2 then
    if c = '>' then r.leave inType else none
  else if c = '-' then r.move (.comment inType (hyphens + 1))
  else r.move (.comment inType 0)

def readVerbatim (r : Reader) (seen : List Char) (c : Char) : Option Outcome :=
  match c, seen with
  | '>', ']' :: ']' :: rest => { r with run := rest ++ r.run }.resume
  | _, _ => r.move (.verbatim (c :: seen))

def readDoctype (r : Reader) (quote : Option Char) (subset : Bool) (c : Char) : Option Outcome :=
  match quote with
  | some q => r.move (.doctype (if c = q then none else some q) subset)
  | none =>
    if c = '"' || c = '\'' then r.move (.doctype (some c) subset)
    else if c = '[' then r.move (.doctype none true)
    else if c = ']' then r.move (.doctype none false)
    else if c = '>' && !subset then r.resume
    else if c = '<' && subset then r.move (.typeMark [])
    else r.move (.doctype none subset)

/-- What is behind `<` need not be the mark of a comment or an instruction. -/
def readTypeMark (r : Reader) (seen : List Char) (c : Char) : Option Outcome :=
  let mark := (c :: seen).reverse
  if mark = "!--".toList then r.move (.comment true 0)
  else if mark = "?".toList then r.move (.instruction true [])
  else if mark.isPrefixOf "!--".toList then r.move (.typeMark (c :: seen))
  else r.readDoctype none true c

/-- The target `xml` is kept for the declaration at the very start. -/
def endInstruction (r : Reader) (inType : Bool) (body : List Char) : Option Outcome :=
  let target := body.takeWhile (!isBlank ·)
  if target = "xml".toList then
    if r.atStart && isDeclaration (body.drop 3) then r.resume else none
  else if target.map Char.toLower = "xml".toList then none
  else if target.head?.any isNameStart && target.all isNameChar then r.endRun.leave inType
  else none

def readInstruction (r : Reader) (inType : Bool) (seen : List Char) (c : Char) : Option Outcome :=
  match c, seen with
  | '>', '?' :: body => r.endInstruction inType body.reverse
  | _, _ => r.move (.instruction inType (c :: seen))

def readStartTag (r : Reader) (tag : StartTag) (c : Char) : Option Outcome :=
  if isNameStart c then r.move (.attributeName tag [c]) else r.betweenParts tag c

def readAttributeName (r : Reader) (tag : StartTag) (seen : List Char) (c : Char) :
    Option Outcome :=
  if isNameChar c then r.move (.attributeName tag (c :: seen))
  else do
    let name ← Name.ofChars? seen.reverse
    if c = '=' then r.move (.beforeValue tag name)
    else if isBlank c then r.move (.afterAttributeName tag name)
    else none

def readValue (r : Reader) (tag : StartTag) (name : Name) (quote : Char) (seen : List Char)
    (c : Char) : Option Outcome :=
  if c = quote then
    let value := String.ofList seen.reverse
    r.move (.afterValue { tag with attributes := (name, value) :: tag.attributes })
  else if c = '<' then none
  else if c = '&' then r.move (.valueReference tag name quote seen [])
  else r.move (.value tag name quote (c :: seen))

def step (r : Reader) (c : Char) : Option Outcome :=
  if !isTextChar c then none
  else
    match r.place with
    | .text brackets => r.readText brackets c
    | .reference seen =>
      if c = ';' then do
        let resolved ← resolve? seen.reverse
        { r with run := resolved :: r.run }.resume
      else r.move (.reference (c :: seen))
    | .opened => r.readOpened c
    | .keyword seen => r.readKeyword seen c
    | .comment inType hyphens => r.readComment inType hyphens c
    | .verbatim seen => r.readVerbatim seen c
    | .doctype quote subset => r.readDoctype quote subset c
    | .typeMark seen => r.readTypeMark seen c
    | .instruction inType seen => r.readInstruction inType seen c
    | .startName seen =>
      if isNameChar c then r.move (.startName (c :: seen))
      else do r.betweenParts ⟨← Name.ofChars? seen.reverse, []⟩ c
    | .startTag tag => r.readStartTag tag c
    | .attributeName tag seen => r.readAttributeName tag seen c
    | .afterAttributeName tag name =>
      if c = '=' then r.move (.beforeValue tag name)
      else if isBlank c then r.move (.afterAttributeName tag name)
      else none
    | .beforeValue tag name =>
      if c = '"' || c = '\'' then r.move (.value tag name c [])
      else if isBlank c then r.move (.beforeValue tag name)
      else none
    | .value tag name quote seen => r.readValue tag name quote seen c
    | .valueReference tag name quote seen reference =>
      if c = ';' then do r.move (.value tag name quote ((← resolve? reference.reverse) :: seen))
      else r.move (.valueReference tag name quote seen (c :: reference))
    | .afterValue tag => r.betweenParts tag c
    | .emptyTag tag => if c = '>' then do (← r.openElement tag).closeElement tag.name else none
    | .endName seen =>
      if isNameChar c then r.move (.endName (c :: seen))
      else do
        let name ← Name.ofChars? seen.reverse
        if c = '>' then r.closeElement name
        else if isBlank c then r.move (.afterEndName name)
        else none
    | .afterEndName name =>
      if c = '>' then r.closeElement name
      else if isBlank c then r.move (.afterEndName name)
      else none

/-- Reads on up to the end of the root element. -/
def finish (r : Reader) : List Char → Option Markup
  | [] => none
  | c :: rest =>
    match r.step c with
    | none => none
    | some (.done root) => some root
    | some (.more r) => r.finish rest

end Reader

/-- The root element of a document. A byte order mark before it is passed over, and whatever
follows it is not looked at. -/
def read (document : List Char) : Option Markup :=
  match document with
  | '\ufeff' :: rest => Reader.start.finish rest
  | cs => Reader.start.finish cs

end Introspection.Markup
