import Introspection.Identifier.Syntax
import Introspection.Text.Case
import Introspection.Text.Words

/-!
# Identifiers from names

A name is cut into words, and every word further where its letter case changes or an underscore
stands. Members are named with small words between underscores, types with capitalised words.
Names without words, names that start with a digit and reserved words are repaired; a name that
is no identifier even then has none.
-/

namespace Introspection.Identifier

open Text

/-! ## Parts of a word -/

/-- The case of the letters since the last cut. -/
inductive CaseState
  | boundary
  | lower
  | upper
  deriving DecidableEq

def CaseState.next (state : CaseState) (c : Char) : CaseState :=
  if isLower c then lower else if isUpper c then upper else state

/-- Cuts a word after a small letter before a capital one, and before the last of several capital
letters if a small one follows it. Underscores separate parts and belong to none. The second
argument holds the current part, its last character first. -/
def partsFrom (state : CaseState) (current : List Char) : List Char → List (List Char)
  | [] => []
  | c :: rest =>
    if c = '_' then partsFrom state current rest
    else
      match rest with
      | [] => [(c :: current).reverse]
      | next :: _ =>
        if next = '_' || state.next c = .lower && isUpper next then
          (c :: current).reverse :: partsFrom .boundary [] rest
        else if state = .upper && isUpper c && isLower next then
          current.reverse :: partsFrom .boundary [c] rest
        else partsFrom (state.next c) (c :: current) rest

def parts (name : String) : List (List Char) :=
  (words name.toList).flatMap (partsFrom .boundary [])

/-! ## Letter case -/

/-- A capital sigma at the end of a part takes its final form. -/
def lowered : List Char → List Char
  | [] => []
  | ['Σ'] => ['ς']
  | c :: rest => toLower c ++ lowered rest

def capitalised : List Char → List Char
  | [] => []
  | c :: rest => toUpper c ++ lowered rest

def snakeCase (name : String) : List Char :=
  ['_'].intercalate ((parts name).map lowered)

def camelCase (name : String) : List Char :=
  (parts name).flatMap capitalised

/-! ## Repair -/

def isIdentifier (cs : List Char) : Bool :=
  hasForm cs && !isReserved cs

/-- Makes an identifier of a name in its final case. -/
def repair? (cs : List Char) : Option (List Char) :=
  let named := if cs.isEmpty then "unnamed".toList else cs
  let started := if named.head?.any Char.isDigit then '_' :: named else named
  let repaired := if isIdentifier started then started else started ++ ['_']
  if hasForm repaired then some repaired else none

/-- The identifier of a method, signal, property or arg. -/
def ofMember? (name : String) : Option String :=
  (repair? (snakeCase name)).map String.ofList

/-- What follows the last dot of a name. -/
def lastSegment (name : String) : String :=
  String.ofList (name.toList.reverse.takeWhile (· != '.')).reverse

/-- The identifier of the type made from an interface. -/
def ofInterface? (name : String) : Option String :=
  (repair? (camelCase (lastSegment name))).map String.ofList

end Introspection.Identifier
