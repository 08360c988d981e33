/-!
# Primitive types

A primitive type is written as a single code. Every primitive but the variant is basic, which
means that it may serve as the key of a dictionary.
-/

namespace Introspection

inductive Primitive
  | boolean
  | byte
  | int16
  | uint16
  | int32
  | uint32
  | int64
  | uint64
  | double
  | string
  | objectPath
  | signature
  | unixFd
  | variant
  deriving DecidableEq

namespace Primitive

def code : Primitive → Char
  | boolean => 'b'
  | byte => 'y'
  | int16 => 'n'
  | uint16 => 'q'
  | int32 => 'i'
  | uint32 => 'u'
  | int64 => 'x'
  | uint64 => 't'
  | double => 'd'
  | string => 's'
  | objectPath => 'o'
  | signature => 'g'
  | unixFd => 'h'
  | variant => 'v'

def all : List Primitive :=
  [boolean, byte, int16, uint16, int32, uint32, int64, uint64, double, string, objectPath,
    signature, unixFd, variant]

def ofCode? (c : Char) : Option Primitive :=
  all.find? fun p ↦ p.code == c

@[simp] theorem ofCode?_code (p : Primitive) : ofCode? p.code = some p := by
  cases p <;> rfl

theorem code_of_ofCode? {c : Char} {p : Primitive} (h : ofCode? c = some p) : p.code = c := by
  simpa using List.find?_some h

theorem ofCode?_eq_some_iff {c : Char} {p : Primitive} : ofCode? c = some p ↔ c = p.code :=
  ⟨fun h ↦ (code_of_ofCode? h).symm, fun h ↦ h ▸ ofCode?_code p⟩

theorem code_injective {p q : Primitive} (h : p.code = q.code) : p = q :=
  Option.some.inj (by rw [← ofCode?_code p, h, ofCode?_code])

/-- Basic types are the ones allowed as dictionary keys. -/
def isBasic (p : Primitive) : Bool :=
  p != variant

/-- The name under which a primitive appears in outlines. -/
def name : Primitive → String
  | boolean => "Boolean"
  | byte => "Byte"
  | int16 => "Int16"
  | uint16 => "UInt16"
  | int32 => "Int32"
  | uint32 => "UInt32"
  | int64 => "Int64"
  | uint64 => "UInt64"
  | double => "Double"
  | string => "String"
  | objectPath => "ObjectPath"
  | signature => "Signature"
  | unixFd => "UnixFd"
  | variant => "Variant"

end Primitive

end Introspection
