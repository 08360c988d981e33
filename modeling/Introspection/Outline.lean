import Introspection.Interface
import Introspection.Text.Quoted

/-!
# Outlines

The outline of a node is a text of several lines: a heading, a line for each field that is worth
one, and the outlines of the nodes below it, set in by two blanks.
-/

namespace Introspection

open Text

/-! ## Lines -/

/-- The text with each of its lines set in. A carriage return at the end of a line is lost. -/
def indented (text : List Char) : List Char :=
  linesFrom [] text
where
  /-- The first argument holds the current line, its last character first. -/
  linesFrom : List Char → List Char → List Char
    | [], [] => []
    | line, [] => ' ' :: ' ' :: (line.reverse ++ ['\n'])
    | line, c :: rest =>
      if c = '\n' then
        let line := if line.head? = some '\r' then line.tail else line
        ' ' :: ' ' :: (line.reverse ++ '\n' :: linesFrom [] rest)
      else linesFrom (c :: line) rest

def nested (outlines : List String) : String :=
  String.join (outlines.map fun outline ↦ String.ofList (indented outline.toList))

def line (text : String) : String :=
  text ++ "\n"

/-- A field of a node. -/
def fieldLine (name text : String) : String :=
  line ("  " ++ name ++ ": " ++ text)

def bracketed (pieces : List String) : String :=
  "[" ++ ", ".intercalate pieces ++ "]"

/-- A text in braces, with blanks around it. -/
def braced (text : String) : String :=
  "\x7b " ++ text ++ " \x7d"

/-! ## Value types and values -/

namespace ValueType

mutual

def outline : ValueType → String
  | boolean => "Boolean"
  | integer width => "Integer(" ++ width.name ++ ")"
  | double => "Double"
  | text kind => "Text(" ++ kind.name ++ ")"
  | bytes => "Bytes"
  | any => "Any"
  | sequence element => "Sequence(" ++ element.outline ++ ")"
  | mapping key value => "Mapping(" ++ key.outline ++ ", " ++ value.outline ++ ")"
  | tuple members => "Tuple(" ++ bracketed (outlines members) ++ ")"
  | wire signature inner =>
    "Wire " ++ braced ("signature: " ++ quoted signature ++ ", inner: " ++ inner.outline)

def outlines : List ValueType → List String
  | [] => []
  | type :: types => type.outline :: outlines types

end

end ValueType

namespace Value

mutual

def outline : Value → String
  | boolean b => "Boolean(" ++ (if b then "true" else "false") ++ ")"
  | integer n => "Integer(" ++ toString n.toInt ++ ")"
  | double x => "Double(" ++ (if x.isNegative then "-" else "") ++ x.magnitude ++ ")"
  | text s => "Text(" ++ quoted s ++ ")"
  | bytes bs => "Bytes(" ++ bracketed (bs.map fun b ↦ toString b.toNat) ++ ")"
  | variant inner => "Variant(" ++ inner.outline ++ ")"
  | sequence element items =>
    "Sequence " ++ braced ("element: " ++ element.outline ++ ", items: " ++
      bracketed (outlines items))
  | mapping key value entries =>
    "Mapping " ++ braced ("key: " ++ key.outline ++ ", value: " ++ value.outline ++
      ", entries: " ++ bracketed (entryOutlines entries))
  | tuple members => "Tuple(" ++ bracketed (outlines members) ++ ")"
  | wire signature value =>
    "Wire " ++ braced ("signature: " ++ quoted signature ++ ", value: " ++ value.outline)

def outlines : List Value → List String
  | [] => []
  | v :: vs => v.outline :: outlines vs

def entryOutlines : List (Value × Value) → List String
  | [] => []
  | (k, v) :: entries => ("(" ++ k.outline ++ ", " ++ v.outline ++ ")") :: entryOutlines entries

end

end Value

/-! ## Nodes -/

def heading (kind name owner : String) : String :=
  line (kind ++ " " ++ name) ++ fieldLine "interface_name" owner

/-- A field that is left out if it is empty. -/
def optionalField (name text : String) : String :=
  if text.isEmpty then "" else fieldLine name text

/-- A field that is left out unless it holds. -/
def flagField (name : String) (flag : Bool) : String :=
  if flag then fieldLine name "true" else ""

def Annotation.outline (a : Annotation) : String :=
  heading "annotation" a.name a.owner ++ optionalField "value" a.value

def Arg.outline (a : Arg) : String :=
  heading "arg" a.name a.owner ++ fieldLine "type" a.type ++
    fieldLine "direction" a.direction.text ++ fieldLine "resolved" a.resolved.outline ++
    nested (a.annotations.map Annotation.outline)

def MemberKind.text : MemberKind → String
  | method => "method"
  | signal => "signal"

def Member.outline {kind : MemberKind} (m : Member kind) : String :=
  heading kind.text m.name m.owner ++ optionalField "signature in" (m.signature .input) ++
    optionalField "signature out" (m.signature .output) ++
    (if m.defaults.isEmpty then ""
      else fieldLine "defaults" (bracketed (m.defaults.map Value.outline))) ++
    nested (m.args.map Arg.outline) ++ nested (m.annotations.map Annotation.outline)

def Property.outline (p : Property) : String :=
  heading "property" p.name p.owner ++ fieldLine "type" p.type ++ fieldLine "access" p.access ++
    flagField "read" p.read ++ flagField "write" p.write ++
    fieldLine "resolved" p.resolved.outline ++ fieldLine "value" p.value.outline ++
    nested (p.annotations.map Annotation.outline)

namespace Interface

mutual

def outline : Interface → String
  | ⟨name, owner, annotations, interfaces, methods, properties, signals⟩ =>
    heading "interface" name owner ++ nested (annotations.map Annotation.outline) ++
      nested (outlines interfaces) ++ nested (methods.map Member.outline) ++
      nested (properties.map Property.outline) ++ nested (signals.map Member.outline)

def outlines : List Interface → List String
  | [] => []
  | i :: is => i.outline :: outlines is

end

end Interface

end Introspection
