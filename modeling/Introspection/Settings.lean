import Introspection.Interface.Merge
import Introspection.Settings.Syntax

/-!
# Settings

The two settings are the mode of args and the policy for interfaces of one name. Each is given at
most once. A table that holds a choice may be written in place, as a dotted key, or as a section
of its own, which may in turn be opened before or after the section of its choice.
-/

namespace Introspection

structure Settings where
  mode : Mode
  merge : Policy
  deriving DecidableEq

namespace Settings

def default : Settings :=
  ⟨.native, .reject⟩

/-- What is known of a setting. -/
inductive Slot
  | given (choice : String)
  /-- A table, which may have had its own header, with its choice if it has one. -/
  | table (headed : Bool) (choice : Option String)
  deriving DecidableEq

def Slot.choice? : Slot → Option String
  | given choice => some choice
  | table _ choice => choice

/-- What the assignments after a header belong to. -/
inductive Scope
  | root
  | table (name : String)
  | choice
  deriving DecidableEq

structure Slots where
  scope : Scope
  slots : List (String × Slot)
  deriving DecidableEq

namespace Slots

def set (s : Slots) (name : String) (slot : Slot) (scope : Scope) : Slots :=
  ⟨scope, (name, slot) :: s.slots.filter (·.1 != name)⟩

/-- Carries out a statement, unless it gives something a second time. -/
def apply (s : Slots) : Statement → Option Slots
  | .assign key value =>
    match s.scope, key, value with
    | .root, [name], .choice choice =>
      if (s.slots.lookup name).isSome then none else some (s.set name (.given choice) .root)
    | .root, [name, choice], .empty =>
      if (s.slots.lookup name).isSome then none else some (s.set name (.given choice) .root)
    | .table name, [choice], .empty =>
      match s.slots.lookup name with
      | some (.table headed none) => some (s.set name (.table headed (some choice)) s.scope)
      | _ => none
    | _, _, _ => none
  | .header [name] =>
    match s.slots.lookup name with
    | none => some (s.set name (.table true none) (.table name))
    | some (.table false choice) => some (s.set name (.table true choice) (.table name))
    | some _ => none
  | .header [name, choice] =>
    match s.slots.lookup name with
    | none => some (s.set name (.table false (some choice)) .choice)
    | some (.table headed none) => some (s.set name (.table headed (some choice)) .choice)
    | some _ => none
  | .header _ => none

end Slots

def modes : List (String × Mode) :=
  [("native", .native), ("wire", .wire)]

def policies : List (String × Policy) :=
  [("reject", .reject), ("keep-first", .keepFirst), ("keep-last", .keepLast)]

/-- Gives a setting its choice. -/
def choose (settings : Settings) (name choice : String) : Option Settings :=
  if name = "mode" then (modes.lookup choice).map fun mode ↦ { settings with mode }
  else if name = "merge" then (policies.lookup choice).map fun merge ↦ { settings with merge }
  else none

/-- The settings of a text, with the defaults for those that it does not give. -/
def ofText? (text : String) : Option Settings := do
  let cs := text.toList
  let statements ← statements? (if cs.head? = some '\ufeff' then cs.tail else cs)
  let final ← statements.foldlM Slots.apply ⟨.root, []⟩
  final.slots.foldlM (fun settings slot ↦ do settings.choose slot.1 (← slot.2.choice?)) default

end Settings

end Introspection
