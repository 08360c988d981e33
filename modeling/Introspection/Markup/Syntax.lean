/-!
# Syntax of markup

The character classes of markup, qualified names and references. A qualified name has an optional
scope before a colon; only the base name after it tells what an element or an attribute is.
-/

namespace Introspection.Markup

/-! ## Characters -/

def isBlank (c : Char) : Bool :=
  c == ' ' || c == '\t' || c == '\n' || c == '\r'

/-- Text may hold any character but the surrogates, most controls and two noncharacters. -/
def isTextChar (c : Char) : Bool :=
  c == '\t' || c == '\n' || c == '\r' || 0x20 ≤ c.toNat && c.toNat != 0xfffe && c.toNat != 0xffff

def nameStartRanges : List (Nat × Nat) :=
  [(0xc0, 0xd6), (0xd8, 0xf6), (0xf8, 0x2ff), (0x370, 0x37d), (0x37f, 0x1fff), (0x200c, 0x200d),
    (0x2070, 0x218f), (0x2c00, 0x2fef), (0x3001, 0xd7ff), (0xf900, 0xfdcf), (0xfdf0, 0xfffd),
    (0x10000, 0xeffff)]

def inRanges (ranges : List (Nat × Nat)) (c : Char) : Bool :=
  ranges.any fun range ↦ range.1 ≤ c.toNat && c.toNat ≤ range.2

def isNameStart (c : Char) : Bool :=
  c.isAlpha || c == '_' || c == ':' || inRanges nameStartRanges c

def isNameChar (c : Char) : Bool :=
  isNameStart c || c.isDigit || c == '-' || c == '.' ||
    inRanges [(0xb7, 0xb7), (0x300, 0x36f), (0x203f, 0x2040)] c

/-! ## Names -/

structure Name where
  scope : Option String
  base : String
  deriving DecidableEq

/-- A name has at most one colon, with something on either side of it. -/
def Name.ofChars? (cs : List Char) : Option Name :=
  if !(cs.head?.any isNameStart && cs.all isNameChar) then none
  else
    let before := cs.takeWhile (· != ':')
    match cs.dropWhile (· != ':') with
    | [] => some ⟨none, String.ofList cs⟩
    | _ :: after =>
      if before.isEmpty || after.isEmpty || after.contains ':' then none
      else some ⟨some (String.ofList before), String.ofList after⟩

/-! ## References -/

/-- The value of a number in the given base, if it has digits and nothing else. -/
def number? (base : Nat) (digits : List Char) : Option Nat :=
  if digits.isEmpty then none
  else digits.foldlM (fun n c ↦ (digit? c).map (n * base + ·)) 0
where
  digit? (c : Char) : Option Nat :=
    let value :=
      if c.isDigit then c.toNat - '0'.toNat
      else if 'a' ≤ c && c ≤ 'f' then c.toNat - 'a'.toNat + 10
      else if 'A' ≤ c && c ≤ 'F' then c.toNat - 'A'.toNat + 10
      else base
    if value < base then some value else none

/-- The character of a number, if it may stand in a text. -/
def charOfNumber? (n : Nat) : Option Char :=
  if n.isValidChar && isTextChar (Char.ofNat n) then some (Char.ofNat n) else none

/-- The character that a reference stands for, given what is between its `&` and its `;`. -/
def resolve? (reference : List Char) : Option Char :=
  match reference with
  | '#' :: 'x' :: digits => (number? 16 digits).bind charOfNumber?
  | '#' :: digits => (number? 10 digits).bind charOfNumber?
  | name =>
    [("lt", '<'), ("gt", '>'), ("amp", '&'), ("apos", '\''), ("quot", '"')].lookup
      (String.ofList name)

end Introspection.Markup

namespace Introspection

/-- A node of a document: a run of text, or an element with its attributes and its content. -/
inductive Markup
  | text (s : String)
  | element (name : Markup.Name) (attributes : List (Markup.Name × String))
      (content : List Markup)

end Introspection
