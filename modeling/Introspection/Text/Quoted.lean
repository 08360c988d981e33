import Introspection.Text.Hidden

/-!
# Quoted text

A quoted text stands between two quotes. The backslash, the quote itself, line breaks, tabs and
hidden characters are escaped; every other character stands for itself. The same rule serves two
quotes, `"` around texts and `'` around single characters.
-/

namespace Introspection.Text

/-- The number of a character in hexadecimal, as in `\u{1f600}`. -/
def escapeNumber (c : Char) : List Char :=
  '\\' :: 'u' :: '{' :: (Nat.toDigits 16 c.toNat ++ ['}'])

/-- One character between two quotes. -/
def escape (quote c : Char) : List Char :=
  if c = '\\' then ['\\', '\\']
  else if c = quote then ['\\', quote]
  else if c = '\n' then ['\\', 'n']
  else if c = '\r' then ['\\', 'r']
  else if c = '\t' then ['\\', 't']
  else if c = '\x00' then ['\\', '0']
  else if isHidden c then escapeNumber c
  else [c]

/-- A text between double quotes. -/
def quoted (s : String) : String :=
  String.ofList ('"' :: (s.toList.flatMap (escape '"') ++ ['"']))

/-- A character between single quotes. -/
def quotedChar (c : Char) : String :=
  String.ofList ('\'' :: (escape '\'' c ++ ['\'']))

end Introspection.Text
