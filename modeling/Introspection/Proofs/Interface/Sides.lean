import Introspection.Proofs.Interface.Parts
import Introspection.Proofs.Signature.Acceptance

/-!
# The sides of a built member

Building reads the type of every arg on its own, and the joined types of the input side once more
for the default values. Both readings agree on every side that is short enough, since the types in
a signature are unique. The joined types of an output side are never read, so they may be too long.
-/

namespace Introspection

variable {mode : Mode} {owner : String} {kind : MemberKind}

/-! ## Joined types -/

namespace Arg

variable {args : List Arg}

theorem exists_types (h : ∀ arg ∈ args, Signature.resolveSingle mode arg.type = .ok arg.resolved) :
    ∃ types : List Descriptor,
      List.Forall₂ (fun arg d ↦ Signature.parseSingle arg.type = .ok d) args types ∧
        List.Forall₂ (fun d arg ↦ d.resolve mode = .ok arg.resolved) types args := by
  induction args with
  | nil => exact ⟨[], .nil, .nil⟩
  | cons arg args ih =>
    obtain ⟨d, hd, hdarg⟩ := Signature.resolveSingle_eq_ok_iff.1 (h arg List.mem_cons_self)
    obtain ⟨types, htypes, hargs⟩ := ih fun arg harg ↦ h arg (List.mem_cons_of_mem _ harg)
    exact ⟨d :: types, .cons hd htypes, .cons hdarg hargs⟩

/-- Joined types that are short enough are read back arg by arg. -/
theorem parse_join (h : ∀ arg ∈ args, Signature.resolveSingle mode arg.type = .ok arg.resolved)
    (hlen : (String.join (args.map type)).utf8ByteSize ≤ 255) :
    ∃ types, Signature.parse (String.join (args.map type)) = .ok types ∧
      List.Forall₂ (fun arg d ↦ Signature.parseSingle arg.type = .ok d) args types ∧
        List.Forall₂ (fun d arg ↦ d.resolve mode = .ok arg.resolved) types args := by
  obtain ⟨types, htypes, hargs⟩ := exists_types h
  exact ⟨types, Signature.parse_join (List.forall₂_map_left_iff.2 htypes) hlen, htypes, hargs⟩

theorem resolve_join (h : ∀ arg ∈ args, Signature.resolveSingle mode arg.type = .ok arg.resolved)
    (hlen : (String.join (args.map type)).utf8ByteSize ≤ 255) :
    Signature.resolve mode (String.join (args.map type)) = .ok (args.map resolved) := by
  obtain ⟨types, hparse, -, hargs⟩ := parse_join h hlen
  refine Signature.resolve_eq_ok_iff.2 ⟨types, hparse, mapM_eq_ok_iff.2 ?_⟩
  exact List.forall₂_map_right_iff.2 hargs

end Arg

/-! ## What building checks of a member -/

namespace Member

/-- The joined types of a side hold one type for each arg on it, in order, which is the type that
the arg has on its own. -/
def ReadsBack (m : Member kind) (side : Direction) : Prop :=
  ∃ types, Signature.parse (m.signature side) = .ok types ∧
    List.Forall₂ (fun arg d ↦ Signature.parseSingle arg.type = .ok d) (m.argsOn side) types

structure Built (mode : Mode) (m : Member kind) : Prop where
  resolved : ∀ arg ∈ m.args, Signature.resolveSingle mode arg.type = .ok arg.resolved
  defaults : Signature.defaults mode (m.signature .input) = .ok m.defaults

/-- All args of a signal are on both of its sides. -/
theorem signature_eq_input (m : Member kind) {side : Direction}
    (h : side = .input ∨ kind = .signal) : m.signature side = m.signature .input := by
  rcases h with rfl | rfl <;> rfl

namespace Built

theorem of_ofElement {e : Element} {m : Member kind} (h : ofElement kind mode owner e = .ok m) :
    m.Built mode := by
  obtain ⟨-, -, -, hargs, hdefaults⟩ := ofElement_eq_ok_iff.1 h
  refine ⟨?_, hdefaults⟩
  intro arg harg
  obtain ⟨e, -, he⟩ := exists_of_mapM_eq_ok hargs harg
  obtain ⟨-, -, -, -, hresolved, -⟩ := Arg.ofElement_eq_ok_iff.1 he
  exact hresolved

theorem of_ofRoot {root : Element} {interfaces : List Interface} {i : Interface} {m : Member kind}
    (h : Interface.ofRoot mode root = .ok interfaces) (hi : Interface.Within interfaces i)
    (hm : m ∈ i.members kind) : m.Built mode := by
  obtain ⟨e, he⟩ := Interface.exists_ofElement_of_within h hi
  obtain ⟨e, he⟩ := Interface.exists_ofElement_of_mem_members he hm
  exact of_ofElement he

/-! ## The types of a side -/

variable {m : Member kind}

theorem resolved_on (h : m.Built mode) (side : Direction) :
    ∀ arg ∈ m.argsOn side, Signature.resolveSingle mode arg.type = .ok arg.resolved :=
  fun arg harg ↦ h.resolved arg (List.mem_of_mem_filter harg)

theorem readsBack_iff (h : m.Built mode) {side : Direction} :
    m.ReadsBack side ↔ (m.signature side).utf8ByteSize ≤ 255 := by
  constructor
  · rintro ⟨_, hparse, -⟩
    exact (Signature.parse_eq_ok_iff.1 hparse).1
  · intro hlen
    obtain ⟨types, hparse, hargs, -⟩ := Arg.parse_join (h.resolved_on side) hlen
    exact ⟨types, hparse, hargs⟩

theorem resolve_signature (h : m.Built mode) {side : Direction}
    (hlen : (m.signature side).utf8ByteSize ≤ 255) :
    Signature.resolve mode (m.signature side) = .ok (m.typeHints side) :=
  Arg.resolve_join (h.resolved_on side) hlen

/-- The joined types of the input side have been read for the defaults. -/
theorem size_input_le (h : m.Built mode) : (m.signature .input).utf8ByteSize ≤ 255 := by
  obtain ⟨_, hresolve, -⟩ := Signature.defaults_eq_ok_iff.1 h.defaults
  obtain ⟨_, hparse, -⟩ := Signature.resolve_eq_ok_iff.1 hresolve
  exact (Signature.parse_eq_ok_iff.1 hparse).1

theorem forall₂_default (h : m.Built mode) :
    List.Forall₂ (fun arg value ↦ arg.resolved.default = .ok value) (m.argsOn .input)
      m.defaults := by
  obtain ⟨resolved, hresolve, hvalues⟩ := Signature.defaults_eq_ok_iff.1 h.defaults
  have hhints : resolved = m.typeHints .input :=
    Except.ok.inj (hresolve.symm.trans (h.resolve_signature h.size_input_le))
  rw [hhints, mapM_eq_ok_iff] at hvalues
  exact List.forall₂_map_left_iff.1 hvalues

end Built

/-! ## The names of a side -/

theorem forall₂_fillNames (names fresh : List String) :
    List.Forall₂ (fun name filled ↦ name ≠ unnamed → filled = name) names
      (fillNames names fresh) := by
  induction names generalizing fresh with
  | nil => exact .nil
  | cons name names ih =>
    rw [fillNames]
    split
    · next hname => exact .cons (fun hne ↦ absurd hname hne) (ih fresh.tail)
    · exact .cons (fun _ ↦ rfl) (ih fresh)

/-- An arg keeps its name if it has one. -/
theorem forall₂_argNames (m : Member kind) :
    List.Forall₂ (fun arg name ↦ arg.name ≠ unnamed → name = arg.name) (m.argsOn .input)
      m.argNames :=
  List.forall₂_map_left_iff.1 (forall₂_fillNames ..)

end Member

/-! ## Built documents -/

section Document

variable {root : Element} {interfaces : List Interface} {i : Interface} {m : Member kind}

/-- The defaults, type hints and names of a member describe the args on its input side, one by
one and in the same order. -/
theorem defaults_follow_args (h : Interface.ofRoot mode root = .ok interfaces)
    (hi : Interface.Within interfaces i) (hm : m ∈ i.members kind) :
    Signature.defaults mode (m.signature .input) = .ok m.defaults ∧
      Signature.resolve mode (m.signature .input) = .ok (m.typeHints .input) ∧
      m.defaults.length = (m.argsOn .input).length ∧
      (m.typeHints .input).length = (m.argsOn .input).length ∧
      m.argNames.length = (m.argsOn .input).length ∧
      List.Forall₂ (fun arg value ↦ arg.resolved.default = .ok value) (m.argsOn .input)
        m.defaults ∧
      List.Forall₂ (fun arg type ↦ type = arg.resolved) (m.argsOn .input) (m.typeHints .input) ∧
      List.Forall₂ (fun arg name ↦ arg.name ≠ unnamed → name = arg.name) (m.argsOn .input)
        m.argNames := by
  have hbuilt : m.Built mode := .of_ofRoot h hi hm
  have hvalues := hbuilt.forall₂_default
  have hnames := m.forall₂_argNames
  have hhints : List.Forall₂ (fun arg type ↦ type = arg.resolved) (m.argsOn .input)
      (m.typeHints .input) := List.forall₂_map_right_iff.2 (List.forall₂_same.2 fun _ _ ↦ rfl)
  exact ⟨hbuilt.defaults, hbuilt.resolve_signature hbuilt.size_input_le, hvalues.length_eq.symm,
    hhints.length_eq.symm, hnames.length_eq.symm, hvalues, hhints, hnames⟩

/-- A method in a nested interface, with two inputs of which the second is unnamed. -/
def configureDocument : Element :=
  ⟨"node", .empty,
    [⟨"interface", .ofList [("name", "org.example.Outer")],
      [⟨"interface", .ofList [("name", "org.example.Inner")],
        [⟨"method", .ofList [("name", "Configure")],
          [⟨"arg", .ofList [("name", "targets"), ("type", "as")], []⟩,
            ⟨"arg", .ofList [("name", "done"), ("type", "b"), ("direction", "out")], []⟩,
            ⟨"arg", .ofList [("type", "(tu)")], []⟩]⟩]⟩]⟩]⟩

def configure : Method where
  name := "Configure"
  owner := "org.example.Inner"
  annotations := []
  args :=
    [⟨"targets", "org.example.Inner", [], "as", .input, .sequence (.text .string)⟩,
      ⟨"done", "org.example.Inner", [], "b", .output, .boolean⟩,
      ⟨unnamed, "org.example.Inner", [], "(tu)", .input,
        .tuple [.integer .uint64, .integer .uint32]⟩]
  defaults := [.sequence (.text .string) [], .tuple [.integer 0, .integer 0]]

def inner : Interface := ⟨"org.example.Inner", "org.example.Inner", [], [], [configure], [], []⟩

def outer : Interface := ⟨"org.example.Outer", "org.example.Outer", [], [inner], [], [], []⟩

theorem ofRoot_configureDocument : Interface.ofRoot .native configureDocument = .ok [outer] := by
  rfl

theorem within_outer : Interface.Within [outer] inner :=
  .nested List.mem_cons_self (.direct List.mem_cons_self)

theorem configure_mem_members : configure ∈ inner.members .method :=
  List.mem_cons_self

theorem defaults_follow_args_of_configure :
    Interface.ofRoot .native configureDocument = .ok [outer] ∧
      Interface.Within [outer] inner ∧ configure ∈ inner.members .method ∧
      configure.argNames = ["targets", "a"] ∧
      configure.argNames.length = (configure.argsOn .input).length ∧
      List.Forall₂ (fun arg value ↦ arg.resolved.default = .ok value) (configure.argsOn .input)
        configure.defaults := by
  have h := defaults_follow_args ofRoot_configureDocument within_outer configure_mem_members
  obtain ⟨-, -, -, -, hnames, hvalues, -⟩ := h
  exact ⟨ofRoot_configureDocument, within_outer, configure_mem_members, rfl, hnames, hvalues⟩

/-- The joined types of a member are read back arg by arg exactly if they are short enough, and
only those of the output side of a method may be too long. -/
theorem readsBack_iff_short (h : Interface.ofRoot mode root = .ok interfaces)
    (hi : Interface.Within interfaces i) (hm : m ∈ i.members kind) (side : Direction) :
    (m.ReadsBack side ↔ (m.signature side).utf8ByteSize ≤ 255) ∧
      (side = .input ∨ kind = .signal → m.ReadsBack side) ∧
      (¬ m.ReadsBack side →
        Signature.parse (m.signature side) =
          .error (.unreadable (m.signature side) ⟨255, .tooLong⟩)) := by
  have hbuilt : m.Built mode := .of_ofRoot h hi hm
  refine ⟨hbuilt.readsBack_iff, ?_, ?_⟩
  · intro hside
    apply hbuilt.readsBack_iff.2
    rw [m.signature_eq_input hside]
    exact hbuilt.size_input_le
  · intro hread
    have hlong : ¬ (m.signature side).utf8ByteSize ≤ 255 := by
      intro hlen
      exact hread (hbuilt.readsBack_iff.2 hlen)
    exact Signature.parse_eq_tooLong (Nat.lt_of_not_le hlong)

theorem configure_readsBack :
    Interface.ofRoot .native configureDocument = .ok [outer] ∧
      Interface.Within [outer] inner ∧ configure ∈ inner.members .method ∧
      configure.ReadsBack .input ∧ configure.ReadsBack .output := by
  have h := readsBack_iff_short ofRoot_configureDocument within_outer configure_mem_members
  have hinput : configure.ReadsBack .input := (h .input).2.1 (.inl rfl)
  have houtput : configure.ReadsBack .output := (h .output).1.2 (by decide)
  exact ⟨ofRoot_configureDocument, within_outer, configure_mem_members, hinput, houtput⟩

/-! ## A reply that is too long -/

/-- A struct of 126 numbers, which is written in 128 bytes. -/
def wide : Descriptor :=
  .struct (List.replicate 126 (.primitive .int32))

/-- A method with two wide outputs. -/
def sampleDocument : Element :=
  ⟨"node", .empty,
    [⟨"interface", .ofList [("name", "org.example.Sensor")],
      [⟨"method", .ofList [("name", "Sample")],
        List.replicate 2 ⟨"arg", .ofList [("type", wide.text), ("direction", "out")], []⟩⟩]⟩]⟩

def sample : Method where
  name := "Sample"
  owner := "org.example.Sensor"
  annotations := []
  args := List.replicate 2 ⟨unnamed, "org.example.Sensor", [], wide.text, .output, wide.native⟩
  defaults := []

def sensor : Interface := ⟨"org.example.Sensor", "org.example.Sensor", [], [], [sample], [], []⟩

theorem legal_wide : wide.Legal := by
  have hmember : ∀ d ∈ List.replicate 126 (Descriptor.primitive .int32), d = .primitive .int32 :=
    fun _ ↦ List.eq_of_mem_replicate
  constructor
  · apply Descriptor.WellFormed.struct (List.cons_ne_nil _ _)
    intro d hd
    rw [hmember d hd]
    exact .primitive _
  · apply Descriptor.arrayNesting_struct_le_iff.2
    intro d hd
    simp [hmember d hd]
  · apply Descriptor.structNesting_struct_le_iff.2
    intro d hd
    simp [hmember d hd]

theorem ofRoot_sampleDocument : Interface.ofRoot .native sampleDocument = .ok [sensor] := by
  have hparse : Signature.parseSingle wide.text = .ok wide :=
    Signature.parseSingle_eq_ok_iff.2 ⟨by decide +kernel, legal_wide, rfl⟩
  have hresolve : Signature.resolveSingle .native wide.text = .ok wide.native :=
    Signature.resolveSingle_eq_ok_iff.2 ⟨wide, hparse, rfl⟩
  have harg : Arg.ofElement .native "org.example.Sensor"
      ⟨"arg", .ofList [("type", wide.text), ("direction", "out")], []⟩ =
        .ok ⟨unnamed, "org.example.Sensor", [], wide.text, .output, wide.native⟩ :=
    Arg.ofElement_eq_ok_iff.2 ⟨rfl, rfl, rfl, rfl, hresolve, rfl⟩
  have hmethod : Member.ofElement .method .native "org.example.Sensor"
      ⟨"method", .ofList [("name", "Sample")],
        List.replicate 2 ⟨"arg", .ofList [("type", wide.text), ("direction", "out")], []⟩⟩ =
        .ok sample :=
    Member.ofElement_eq_ok_iff.2
      ⟨rfl, rfl, rfl, mapM_eq_ok_iff.2 (.cons harg (.cons harg .nil)), rfl⟩
  rw [Interface.ofRoot, Interface.ofElements_eq_mapM]
  refine mapM_eq_ok_iff.2
    (.cons (Interface.ofElement_eq_ok_iff.2 ⟨rfl, rfl, rfl, rfl, ?_, rfl⟩) .nil)
  intro kind
  cases kind with
  | method => exact mapM_eq_ok_iff.2 (.cons hmethod .nil)
  | signal => rfl

/-- The outputs of a method that was built need not make up a signature. -/
theorem sample_not_readsBack :
    Interface.ofRoot .native sampleDocument = .ok [sensor] ∧
      Interface.Within [sensor] sensor ∧ sample ∈ sensor.members .method ∧
      (sample.signature .output).utf8ByteSize = 256 ∧ ¬ sample.ReadsBack .output := by
  have hsize : (sample.signature .output).utf8ByteSize = 256 := by decide +kernel
  refine ⟨ofRoot_sampleDocument, .direct List.mem_cons_self, List.mem_cons_self, hsize, ?_⟩
  rintro ⟨types, hparse, -⟩
  have hlen := (Signature.parse_eq_ok_iff.1 hparse).1
  omega

end Document

end Introspection
