import Introspection.Value

/-!
# Interfaces

An interface holds methods, signals, properties and further interfaces, and everything may carry
annotations. Every node records its owner, the name of the interface it belongs to. A method splits
its args into an input and an output; every arg of a signal belongs to both.
-/

namespace Introspection

/-- The name of a node without a name of its own. -/
def unnamed : String := "<unnamed>"

inductive Direction
  | input
  | output
  deriving DecidableEq

def Direction.text : Direction → String
  | input => "in"
  | output => "out"

def Direction.ofText? (s : String) : Option Direction :=
  [input, output].find? fun d ↦ d.text == s

@[simp] theorem Direction.ofText?_text (d : Direction) : ofText? d.text = some d := by
  cases d <;> rfl

theorem Direction.ofText?_eq_some_iff {s : String} {d : Direction} :
    ofText? s = some d ↔ s = d.text :=
  ⟨fun h ↦ (by simpa using List.find?_some h : d.text = s).symm, fun h ↦ h ▸ ofText?_text d⟩

structure Annotation where
  name : String
  owner : String
  value : String
  deriving DecidableEq

structure Arg where
  name : String
  owner : String
  annotations : List Annotation
  /-- The signature of a single complete type. -/
  type : String
  direction : Direction
  resolved : ValueType

inductive MemberKind
  | method
  | signal
  deriving DecidableEq

/-- Whether an arg of a direction belongs to the given side of a member. -/
def MemberKind.includes : MemberKind → Direction → Arg → Bool
  | method, side, arg => arg.direction == side
  | signal, _, _ => true

structure Member (kind : MemberKind) where
  name : String
  owner : String
  annotations : List Annotation
  args : List Arg
  /-- The default values of the args on the input side. -/
  defaults : List Value

abbrev Method := Member .method

abbrev Signal := Member .signal

structure Property where
  name : String
  owner : String
  annotations : List Annotation
  /-- The signature of a single complete type. -/
  type : String
  resolved : ValueType
  value : Value
  access : String
  read : Bool
  write : Bool

structure Interface where
  name : String
  /-- The name of the interface itself, also where it stands within another one. -/
  owner : String
  annotations : List Annotation
  interfaces : List Interface
  methods : List Method
  properties : List Property
  signals : List Signal

/-- Induction over the nesting, with the hypothesis for every nested interface. -/
@[elab_as_elim, induction_eliminator]
theorem Interface.induction {motive : Interface → Prop}
    (interface : ∀ i, (∀ j ∈ i.interfaces, motive j) → motive i) (i : Interface) : motive i :=
  @Interface.rec motive (fun is ↦ ∀ i ∈ is, motive i)
    (fun name owner annotations interfaces methods properties signals ↦
      interface ⟨name, owner, annotations, interfaces, methods, properties, signals⟩) nofun
    (fun _ _ h hs ↦ List.forall_mem_cons.2 ⟨h, hs⟩) i

/-! ## Annotations -/

namespace Annotation

/-- The first annotation of a name. -/
def find? (annotations : List Annotation) (name : String) : Option Annotation :=
  annotations.find? fun annotation ↦ annotation.name == name

def deprecated : String := "org.freedesktop.DBus.Deprecated"

/-- Whether the annotations mark their node as deprecated. -/
def areDeprecated (annotations : List Annotation) : Bool :=
  (find? annotations deprecated).any fun annotation ↦ annotation.value == "true"

end Annotation

/-! ## Access of properties -/

namespace Property

/-- Whether a word occurs in a text, at any place. -/
def occurs (word : List Char) : List Char → Bool
  | [] => word.isEmpty
  | c :: rest => word.isPrefixOf (c :: rest) || occurs word rest

def grants (access word : String) : Bool :=
  occurs word.toList access.toList

end Property

/-! ## Names of args -/

/-- The sequence `a`, `b`, and so on up to `z`, then `arg26`, `arg27`, and so on. -/
def generatedName (n : Nat) : String :=
  if n < 26 then (Char.ofNat ('a'.toNat + n)).toString else "arg" ++ toString n

/-- The first generated names that are not taken. -/
def freshNames (taken : List String) (count : Nat) : List String :=
  (((List.range (count + taken.length)).map generatedName).filter (!taken.contains ·)).take count

/-- Replaces the unnamed ones among the names by the given fresh ones, in order. -/
def fillNames : List String → List String → List String
  | [], _ => []
  | name :: names, fresh =>
    if name = unnamed then fresh.headD "" :: fillNames names fresh.tail
    else name :: fillNames names fresh

/-! ## Sides of a member -/

namespace Member

variable {kind : MemberKind}

def argsOn (m : Member kind) (side : Direction) : List Arg :=
  m.args.filter (kind.includes side)

/-- The types of the args on a side, one after the other. -/
def signature (m : Member kind) (side : Direction) : String :=
  String.join ((m.argsOn side).map Arg.type)

def typeHints (m : Member kind) (side : Direction) : List ValueType :=
  (m.argsOn side).map Arg.resolved

/-- The names of the args on the input side. Unnamed args get generated names that no other arg
on that side has. -/
def argNames (m : Member kind) : List String :=
  let names := (m.argsOn .input).map Arg.name
  let taken := names.filter (· != unnamed)
  fillNames names (freshNames taken (names.length - taken.length))

end Member

end Introspection
