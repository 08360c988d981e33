/-!
# Sets of characters

A set of characters is given by the ascending list of the code points at which membership
changes: the first one opens the first run of members, the second one is past its end, and so on.
-/

namespace Introspection.Text

structure CodeSet where
  changes : List Nat

/-- A character is a member iff an odd number of changes stand at or before it. -/
def CodeSet.contains (s : CodeSet) (c : Char) : Bool :=
  s.changes.countP (· ≤ c.toNat) % 2 == 1

def isAscii (c : Char) : Bool :=
  c.toNat < 0x80

end Introspection.Text
