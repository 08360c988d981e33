import Introspection.Text.Alphanumeric
import Introspection.Text.BreakClass

/-!
# Words of a text

A text is cut between every two characters that no rule joins. Marks stay with the character
before them and are passed over by the rules. Letters, digits and connectors are joined with each
other, and so are two letters or two digits around a single punctuation character of the right
class. A word is a segment that holds a letter or a digit. The rules that join blanks, flags and
emoji are left out, as they join characters of which none is alphanumeric.
-/

namespace Introspection.Text

/-- A character with the marks after it, under the class of the character. -/
structure Cluster where
  kind : BreakClass
  chars : List Char

/-- Puts a character before the clusters of what follows it. A line break takes no marks. -/
def Cluster.cons (c : Char) (clusters : List Cluster) : List Cluster :=
  match BreakClass.of c, clusters with
  | .newline, clusters => ⟨.newline, [c]⟩ :: clusters
  | kind, ⟨.mark, marks⟩ :: clusters => ⟨kind, c :: marks⟩ :: clusters
  | kind, clusters => ⟨kind, [c]⟩ :: clusters

def clusters (cs : List Char) : List Cluster :=
  cs.foldr Cluster.cons []

namespace BreakClass

def isLetter : BreakClass → Bool
  | letter | hebrew => true
  | _ => false

def isMidLetter : BreakClass → Bool
  | midLetter | midBoth | singleQuote => true
  | _ => false

def isMidNumber : BreakClass → Bool
  | midNumber | midBoth | singleQuote => true
  | _ => false

/-- Letters and digits, which stay together whatever their order. -/
def isCore (b : BreakClass) : Bool :=
  b.isLetter || b == numeric

/-- What a connector joins. -/
def isConnected (b : BreakClass) : Bool :=
  b.isCore || b == katakana

/-- Punctuation that stands in the middle, between two neighbours that take it. -/
def bridges (left middle right : BreakClass) : Bool :=
  left.isLetter && middle.isMidLetter && right.isLetter ||
    left == numeric && middle.isMidNumber && right == numeric ||
    left == hebrew && middle == doubleQuote && right == hebrew

/-- Whether two adjacent classes stay together, given the classes on either side of them. -/
def joins (before : BreakClass) (a b : BreakClass) (after : BreakClass) : Bool :=
  a.isCore && b.isCore || a == katakana && b == katakana ||
    a == connector && b == connector || a.isConnected && b == connector ||
    a == connector && b.isConnected || a == hebrew && b == singleQuote ||
    bridges a b after || bridges before a b

end BreakClass

/-- Cuts clusters into segments. The first two arguments are the class before the current cluster
and what the current segment holds up to that cluster. -/
def segmentsFrom (before : BreakClass) (segment : List Char) : List Cluster → List (List Char)
  | [] => []
  | [a] => [segment ++ a.chars]
  | a :: b :: rest =>
    let after := (rest.head?.map Cluster.kind).getD .other
    if before.joins a.kind b.kind after then
      segmentsFrom a.kind (segment ++ a.chars) (b :: rest)
    else (segment ++ a.chars) :: segmentsFrom a.kind [] (b :: rest)

def segments (cs : List Char) : List (List Char) :=
  segmentsFrom .other [] (clusters cs)

def words (cs : List Char) : List (List Char) :=
  (segments cs).filter fun segment ↦ segment.any isAlphanumeric

end Introspection.Text
