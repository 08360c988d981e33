import Introspection.Signature.Fault

/-!
# Errors of documents
-/

namespace Introspection

/-- Why a document cannot be used. -/
inductive Error
  | malformed
  | missingAttribute (tag node missing : String)
  | invalidAccess (property access : String)
  | invalidDirection (arg direction : String)
  | signature (node : String) (source : Signature.Error)
  | duplicateInterface (name : String)
  deriving DecidableEq

open Text in
def Error.message : Error → String
  | malformed => "the document is malformed"
  | missingAttribute tag node missing =>
    "<" ++ tag ++ " name=" ++ quoted node ++ "> is missing the required attribute " ++
      quoted missing
  | invalidAccess property access =>
    "property " ++ quoted property ++ " has an invalid access specifier " ++ quoted access
  | invalidDirection arg direction =>
    "arg " ++ quoted arg ++ " has an invalid direction " ++ quoted direction
  | signature node source => node ++ ": " ++ source.message
  | duplicateInterface name => "interface " ++ quoted name ++ " is defined more than once"

end Introspection
