import Introspection.Error
import Introspection.Interface

/-!
# Merging interfaces

The interfaces of several documents are put together by name. A name keeps the place at which it
was first seen; the policy decides which of several interfaces with the name is kept, or refuses
them.
-/

namespace Introspection

inductive Policy
  | reject
  | keepFirst
  | keepLast
  deriving DecidableEq

namespace Interface

/-- Puts an interface in the place of the one with its name. -/
def replace (i : Interface) (merged : List Interface) : List Interface :=
  merged.map fun old ↦ if old.name = i.name then i else old

/-- Adds an interface to interfaces with distinct names. -/
def add (policy : Policy) (merged : List Interface) (i : Interface) :
    Except Error (List Interface) :=
  if merged.any fun old ↦ old.name == i.name then
    match policy with
    | .reject => .error (.duplicateInterface i.name)
    | .keepFirst => .ok merged
    | .keepLast => .ok (i.replace merged)
  else .ok (merged ++ [i])

def merge (policy : Policy) (documents : List (List Interface)) :
    Except Error (List Interface) :=
  documents.flatten.foldlM (add policy) []

end Interface

end Introspection
