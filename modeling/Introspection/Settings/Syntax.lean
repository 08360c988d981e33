/-!
# Syntax of settings

Settings are written in TOML. A setting takes one of several choices, and a choice is written as
a string or as a table with the choice as its only key and nothing below it. So of the values of
TOML only strings and such tables are read, and keys have at most two parts; a text with anything
else in it holds no settings.
-/

namespace Introspection.Settings

inductive Value
  | choice (name : String)
  /-- What stands below a choice: an empty table or an empty array. -/
  | empty
  deriving DecidableEq

/-- A line of settings. Keys are given by their parts. -/
inductive Statement
  | header (key : List String)
  | assign (key : List String) (value : Value)
  deriving DecidableEq

/-! ## Blanks, line ends and comments -/

def isBlank (c : Char) : Bool :=
  c == ' ' || c == '\t'

def skipBlanks (cs : List Char) : List Char :=
  cs.dropWhile isBlank

/-- Controls stand neither in strings nor in comments. -/
def isControl (c : Char) : Bool :=
  c.toNat < 0x20 && c != '\t' || c.toNat == 0x7f

def lineBreak? : List Char → Option (List Char)
  | '\n' :: rest => some rest
  | '\r' :: '\n' :: rest => some rest
  | _ => none

/-- What follows the rest of a line, if that is blank up to a comment. -/
def lineEnd? (cs : List Char) : Option (List Char) :=
  match skipBlanks cs with
  | [] => some []
  | '#' :: comment =>
    match comment.dropWhile (!isControl ·) with
    | [] => some []
    | rest => lineBreak? rest
  | rest => lineBreak? rest

/-- Passes over blanks, line ends and comments. The first argument tells whether a comment has
begun. -/
def skipLines : Bool → List Char → List Char
  | _, '\n' :: rest => skipLines false rest
  | _, '\r' :: '\n' :: rest => skipLines false rest
  | false, '#' :: rest => skipLines true rest
  | comment, c :: rest =>
    if (if comment then !isControl c else isBlank c) then skipLines comment rest else c :: rest
  | _, [] => []

def skip? (c : Char) : List Char → Option (List Char)
  | d :: rest => if d = c then some rest else none
  | [] => none

/-! ## Strings -/

def hexDigit? (c : Char) : Option Nat :=
  if c.isDigit then some (c.toNat - '0'.toNat)
  else if 'a' ≤ c && c ≤ 'f' then some (c.toNat - 'a'.toNat + 10)
  else if 'A' ≤ c && c ≤ 'F' then some (c.toNat - 'A'.toNat + 10)
  else none

/-- The character with the number given by hexadecimal digits. -/
def charOfHex? (digits : List Char) : Option Char := do
  let n ← digits.foldlM (fun n c ↦ (hexDigit? c).map (16 * n + ·)) 0
  if n.isValidChar then some (Char.ofNat n) else none

def escape? (c : Char) : Option Char :=
  [('b', '\x08'), ('t', '\t'), ('n', '\n'), ('f', '\x0c'), ('r', '\r'), ('"', '"'),
    ('\\', '\\')].lookup c

/-- A string that has been read, and what follows it. -/
abbrev Scanned := Option (List Char × List Char)

def push (c : Char) (scanned : Scanned) : Scanned :=
  scanned.map fun s ↦ (c :: s.1, s.2)

/-- The rest of a basic string on one line. -/
def basic? : List Char → Scanned
  | '"' :: rest => some ([], rest)
  | '\\' :: 'u' :: a :: b :: c :: d :: rest => do push (← charOfHex? [a, b, c, d]) (basic? rest)
  | '\\' :: 'U' :: a :: b :: c :: d :: e :: f :: g :: h :: rest => do
    push (← charOfHex? [a, b, c, d, e, f, g, h]) (basic? rest)
  | '\\' :: c :: rest => do push (← escape? c) (basic? rest)
  | c :: rest => if isControl c then none else push c (basic? rest)
  | [] => none

/-- The rest of a basic string on several lines. Up to two quotes may stand right before the
closing ones. A backslash at the end of a line passes over all blanks and line ends after it; the
first argument tells whether this goes on. -/
def longBasic? : Bool → List Char → Scanned
  | true, ' ' :: rest => longBasic? true rest
  | true, '\t' :: rest => longBasic? true rest
  | true, '\n' :: rest => longBasic? true rest
  | true, '\r' :: '\n' :: rest => longBasic? true rest
  | _, '"' :: '"' :: '"' :: '"' :: '"' :: rest => some (['"', '"'], rest)
  | _, '"' :: '"' :: '"' :: '"' :: rest => some (['"'], rest)
  | _, '"' :: '"' :: '"' :: rest => some ([], rest)
  | _, '\\' :: 'u' :: a :: b :: c :: d :: rest => do
    push (← charOfHex? [a, b, c, d]) (longBasic? false rest)
  | _, '\\' :: 'U' :: a :: b :: c :: d :: e :: f :: g :: h :: rest => do
    push (← charOfHex? [a, b, c, d, e, f, g, h]) (longBasic? false rest)
  | _, '\\' :: c :: rest =>
    if (lineBreak? (skipBlanks (c :: rest))).isSome then longBasic? true rest
    else do push (← escape? c) (longBasic? false rest)
  | _, '\n' :: rest => push '\n' (longBasic? false rest)
  | _, '\r' :: '\n' :: rest => push '\n' (longBasic? false rest)
  | _, c :: rest => if isControl c then none else push c (longBasic? false rest)
  | _, [] => none

/-- The rest of a literal string on one line. -/
def literal? : List Char → Scanned
  | '\'' :: rest => some ([], rest)
  | c :: rest => if isControl c then none else push c (literal? rest)
  | [] => none

/-- The rest of a literal string on several lines. -/
def longLiteral? : List Char → Scanned
  | '\'' :: '\'' :: '\'' :: '\'' :: '\'' :: rest => some (['\'', '\''], rest)
  | '\'' :: '\'' :: '\'' :: '\'' :: rest => some (['\''], rest)
  | '\'' :: '\'' :: '\'' :: rest => some ([], rest)
  | '\n' :: rest => push '\n' (longLiteral? rest)
  | '\r' :: '\n' :: rest => push '\n' (longLiteral? rest)
  | c :: rest => if isControl c then none else push c (longLiteral? rest)
  | [] => none

/-- A line break right behind the opening quotes is not part of a string. -/
def skipLineBreak (cs : List Char) : List Char :=
  (lineBreak? cs).getD cs

def string? (cs : List Char) : Option (String × List Char) :=
  Option.map (fun s ↦ (String.ofList s.1, s.2)) <|
    match cs with
    | '"' :: '"' :: '"' :: rest => longBasic? false (skipLineBreak rest)
    | '"' :: rest => basic? rest
    | '\'' :: '\'' :: '\'' :: rest => longLiteral? (skipLineBreak rest)
    | '\'' :: rest => literal? rest
    | _ => none

/-! ## Keys and values -/

def isBare (c : Char) : Bool :=
  c.isAlphanum || c == '-' || c == '_'

/-- One part of a key. -/
def keyPart? (cs : List Char) : Option (String × List Char) :=
  match cs with
  | '"' :: rest => (basic? rest).map fun s ↦ (String.ofList s.1, s.2)
  | '\'' :: rest => (literal? rest).map fun s ↦ (String.ofList s.1, s.2)
  | cs =>
    let bare := cs.takeWhile isBare
    if bare.isEmpty then none else some (String.ofList bare, cs.drop bare.length)

/-- A key of one or two parts, and what follows it and the blanks behind it. -/
def key? (cs : List Char) : Option (List String × List Char) := do
  let (first, rest) ← keyPart? (skipBlanks cs)
  match skipBlanks rest with
  | '.' :: rest =>
    let (second, rest) ← keyPart? (skipBlanks rest)
    return ([first, second], skipBlanks rest)
  | rest => return ([first], rest)

/-- An empty table or an empty array. -/
def empty? (cs : List Char) : Option (List Char) :=
  match cs with
  | '\x7b' :: rest => skip? '\x7d' (skipBlanks rest)
  | '[' :: rest => skip? ']' (skipLines false rest)
  | _ => none

def value? (cs : List Char) : Option (Value × List Char) :=
  match empty? cs, cs with
  | some rest, _ => some (.empty, rest)
  | none, '\x7b' :: rest => do
    let (name, rest) ← keyPart? (skipBlanks rest)
    let rest ← skip? '=' (skipBlanks rest)
    let rest ← empty? (skipBlanks rest)
    let rest ← skip? '\x7d' (skipBlanks rest)
    return (.choice name, rest)
  | none, cs => (string? cs).map fun s ↦ (.choice s.1, s.2)

/-! ## Lines -/

/-- The statement that starts here, and what follows its line. -/
def statement? (cs : List Char) : Option (Statement × List Char) :=
  match skipBlanks cs with
  | '[' :: rest => do
    let (key, rest) ← key? rest
    let rest ← skip? ']' rest
    return (.header key, ← lineEnd? rest)
  | cs => do
    let (key, rest) ← key? cs
    let rest ← skip? '=' rest
    let (value, rest) ← value? (skipBlanks rest)
    return (.assign key value, ← lineEnd? rest)

/-- Reads at most the given number of lines. -/
def statementsWithin : Nat → List Char → Option (List Statement)
  | _, [] => some []
  | 0, _ => none
  | n + 1, cs =>
    match lineEnd? cs with
    | some rest => statementsWithin n rest
    | none => do
      let (statement, rest) ← statement? cs
      let statements ← statementsWithin n rest
      return statement :: statements

/-- All statements of a text, which has no more lines than characters. -/
def statements? (cs : List Char) : Option (List Statement) :=
  statementsWithin cs.length cs

end Introspection.Settings
