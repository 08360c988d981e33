import Introspection.Text.Quoted

/-!
# Faults of a signature

A fault is a cause at a byte position. An unknown code is told apart from the faults of a
signature whose characters are all codes but do not stand in a legal order.
-/

namespace Introspection.Signature

inductive Cause
  | tooLong
  | typeExpected
  | strayParenthesis
  | strayBrace
  | strayEntry
  | arraysTooDeep
  | structsTooDeep
  | emptyEntry
  | keyNotBasic
  | valueMissing
  | surplusType
  | entryNotClosed
  | emptyStruct
  | structNotClosed
  | notSingle
  | unknownCode (code : Char)
  deriving DecidableEq

structure Fault where
  position : Nat
  cause : Cause
  deriving DecidableEq

/-- Why a signature, or a type taken from one, cannot be used. -/
inductive Error
  | unreadable (signature : String) (fault : Fault)
  | noDefault (signature : String)
  deriving DecidableEq

def Cause.reason : Cause → String
  | tooLong => "signature exceeds 255 bytes"
  | typeExpected => "expected a complete type, found end of signature"
  | strayParenthesis => "unbalanced ')'"
  | strayBrace => "unbalanced '\x7d'"
  | strayEntry => "dictionary entry outside of an array"
  | arraysTooDeep => "arrays nested too deeply"
  | structsTooDeep => "structs nested too deeply"
  | emptyEntry => "empty dictionary entry"
  | keyNotBasic => "dictionary key must be a basic type"
  | valueMissing => "dictionary entry is missing a value type"
  | surplusType => "dictionary entry must hold exactly two types"
  | entryNotClosed => "unbalanced '\x7b': missing '\x7d'"
  | emptyStruct => "empty struct"
  | structNotClosed => "unbalanced '(': missing ')'"
  | notSingle => "expected exactly one complete type"
  | unknownCode _ => "unknown type code"

def Error.message : Error → String
  | unreadable signature ⟨position, .unknownCode code⟩ =>
    "unknown type code " ++ Text.quotedChar code ++ " in signature " ++ Text.quoted signature ++
      " at position " ++ toString position
  | unreadable signature ⟨position, cause⟩ =>
    "invalid signature " ++ Text.quoted signature ++ " at position " ++ toString position ++ ": " ++
      cause.reason
  | noDefault signature =>
    Text.quoted signature ++ " has no default value outside of an array"

end Introspection.Signature
