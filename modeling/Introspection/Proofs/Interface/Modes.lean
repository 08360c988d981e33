import Introspection.Proofs.Interface.Faults

/-!
# Both modes

The mode touches only the types of args and the defaults of members. What is built on the wire is,
once its wrappers are erased, what is built in native mode. Conversely a document that is built in
native mode is refused on the wire only for args with a loose byte, and the first of them, in the
order in which args are built, is the one that is reported.
-/

namespace Introspection

variable {owner : String} {e : Element} {kind : MemberKind}

/-! ## Erasing wrappers from nodes -/

def Arg.erase (arg : Arg) : Arg :=
  { arg with resolved := arg.resolved.erase }

namespace Member

def erase (m : Member kind) : Member kind :=
  { m with args := m.args.map Arg.erase, defaults := m.defaults.map Value.erase }

theorem argsOn_erase (m : Member kind) (side : Direction) :
    m.erase.argsOn side = (m.argsOn side).map Arg.erase := by
  cases kind <;> exact List.filter_map

@[simp] theorem signature_erase (m : Member kind) (side : Direction) :
    m.erase.signature side = m.signature side := by
  rw [signature, argsOn_erase, List.map_map]
  rfl

end Member

namespace Interface

mutual

/-- Properties have no wrappers in either mode. -/
def erase : Interface → Interface
  | ⟨name, owner, annotations, interfaces, methods, properties, signals⟩ =>
    ⟨name, owner, annotations, eraseAll interfaces, methods.map Member.erase, properties,
      signals.map Member.erase⟩

def eraseAll : List Interface → List Interface
  | [] => []
  | i :: is => i.erase :: eraseAll is

end

theorem eraseAll_eq_map (is : List Interface) : eraseAll is = is.map erase := by
  induction is with
  | nil => rfl
  | cons i is ih => rw [eraseAll, ih, List.map_cons]

@[simp] theorem name_erase (i : Interface) : i.erase.name = i.name := by
  cases i
  rfl

@[simp] theorem owner_erase (i : Interface) : i.erase.owner = i.owner := by
  cases i
  rfl

@[simp] theorem annotations_erase (i : Interface) : i.erase.annotations = i.annotations := by
  cases i
  rfl

@[simp] theorem interfaces_erase (i : Interface) :
    i.erase.interfaces = i.interfaces.map erase := by
  cases i
  exact eraseAll_eq_map _

@[simp] theorem members_erase (i : Interface) :
    i.erase.members kind = (i.members kind).map Member.erase := by
  cases i
  cases kind <;> rfl

@[simp] theorem properties_erase (i : Interface) : i.erase.properties = i.properties := by
  cases i
  rfl

end Interface

/-! ## From the wire to native nodes -/

namespace Signature

variable {signature : String}

theorem resolveSingle_native_of_wire {type : ValueType}
    (h : resolveSingle .wire signature = .ok type) :
    resolveSingle .native signature = .ok type.erase := by
  obtain ⟨d, hparse, hresolve⟩ := resolveSingle_eq_ok_iff.1 h
  exact resolveSingle_eq_ok_iff.2 ⟨d, hparse, Descriptor.resolve_native_of_resolve_wire hresolve⟩

theorem resolve_native_of_wire {types : List ValueType} (h : resolve .wire signature = .ok types) :
    resolve .native signature = .ok (types.map ValueType.erase) := by
  obtain ⟨ds, hparse, hresolve⟩ := resolve_eq_ok_iff.1 h
  refine resolve_eq_ok_iff.2 ⟨ds, hparse, mapM_eq_ok_map_of_mapM_eq_ok hresolve ?_⟩
  exact fun _ _ _ hd ↦ Descriptor.resolve_native_of_resolve_wire hd

theorem defaults_native_of_wire {values : List Value} (h : defaults .wire signature = .ok values) :
    defaults .native signature = .ok (values.map Value.erase) := by
  obtain ⟨types, hresolve, hvalues⟩ := defaults_eq_ok_iff.1 h
  refine defaults_eq_ok_iff.2 ⟨_, resolve_native_of_wire hresolve, ?_⟩
  rw [List.mapM_map]
  exact mapM_eq_ok_map_of_mapM_eq_ok hvalues fun _ _ _ hvalue ↦ ValueType.default_erase hvalue

end Signature

theorem Arg.ofElement_native_of_wire {arg : Arg} (h : ofElement .wire owner e = .ok arg) :
    ofElement .native owner e = .ok arg.erase := by
  obtain ⟨hname, howner, htype, hdirection, hresolved, hannotations⟩ := ofElement_eq_ok_iff.1 h
  have herased := Signature.resolveSingle_native_of_wire hresolved
  exact ofElement_eq_ok_iff.2 ⟨hname, howner, htype, hdirection, herased, hannotations⟩

theorem Member.ofElement_native_of_wire {m : Member kind}
    (h : ofElement kind .wire owner e = .ok m) :
    ofElement kind .native owner e = .ok m.erase := by
  obtain ⟨hname, howner, hannotations, hargs, hdefaults⟩ := ofElement_eq_ok_iff.1 h
  have hargs : (e.childrenNamed "arg").mapM (Arg.ofElement .native owner) = .ok m.erase.args :=
    mapM_eq_ok_map_of_mapM_eq_ok hargs fun _ _ _ harg ↦ Arg.ofElement_native_of_wire harg
  refine ofElement_eq_ok_iff.2 ⟨hname, howner, hannotations, hargs, ?_⟩
  rw [signature_erase]
  exact Signature.defaults_native_of_wire hdefaults

theorem Interface.ofElement_native_of_wire {i : Interface} (h : ofElement .wire e = .ok i) :
    ofElement .native e = .ok i.erase := by
  induction e generalizing i with
  | element e ih =>
    obtain ⟨hname, howner, hannotations, hinterfaces, hmembers, hproperties⟩ :=
      ofElement_eq_ok_iff.1 h
    rw [ofElement_eq_ok_iff]
    simp only [name_erase, owner_erase, annotations_erase, interfaces_erase, members_erase,
      properties_erase]
    refine ⟨hname, howner, hannotations, ?_, fun kind ↦ ?_, hproperties⟩
    · refine mapM_eq_ok_map_of_mapM_eq_ok hinterfaces fun child hchild j hj ↦ ?_
      exact ih child (List.mem_of_mem_filter hchild) hj
    · refine mapM_eq_ok_map_of_mapM_eq_ok (hmembers kind) fun _ _ m hm ↦ ?_
      exact Member.ofElement_native_of_wire hm

theorem Interface.ofRoot_native_of_wire {root : Element} {wires : List Interface}
    (h : ofRoot .wire root = .ok wires) : ofRoot .native root = .ok (wires.map erase) := by
  rw [ofRoot, ofElements_eq_mapM] at h ⊢
  exact mapM_eq_ok_map_of_mapM_eq_ok h fun _ _ _ hi ↦ ofElement_native_of_wire hi

/-! ## Args with a loose byte -/

namespace Arg

/-- The type of the arg has a byte that is reached from its root through structs only. -/
def HasLooseByte (arg : Arg) : Prop :=
  ∃ d, Signature.parseSingle arg.type = .ok d ∧ d.HasLooseByte

theorem hasLooseByte_iff {arg : Arg} {d : Descriptor}
    (h : Signature.parseSingle arg.type = .ok d) : arg.HasLooseByte ↔ d.HasLooseByte := by
  simp [HasLooseByte, h]

instance : DecidablePred HasLooseByte := fun arg ↦
  match h : Signature.parseSingle arg.type with
  | .ok _ => decidable_of_iff _ (hasLooseByte_iff h).symm
  | .error _ => isFalse (by simp [HasLooseByte, h])

/-- How an arg with a loose byte is refused. -/
def looseByteError (arg : Arg) : Error :=
  .signature (path arg.owner arg.name) (.noDefault "y")

def looseByteErrors (args : List Arg) : List Error :=
  (args.filter (·.HasLooseByte)).map looseByteError

theorem looseByteErrors_append (args args' : List Arg) :
    looseByteErrors (args ++ args') = looseByteErrors args ++ looseByteErrors args' := by
  simp [looseByteErrors]

theorem looseByteErrors_flatMap {α : Type} (as : List α) (args : α → List Arg) :
    looseByteErrors (as.flatMap args) = as.flatMap fun a ↦ looseByteErrors (args a) := by
  simp [looseByteErrors, List.filter_flatMap, List.map_flatMap]

/-- The arg that is reported is the first one with a loose byte. -/
theorem looseByteErrors_head?_eq_some_iff {args : List Arg} {error : Error} :
    (looseByteErrors args).head? = some error ↔
      ∃ arg, args.find? (·.HasLooseByte) = some arg ∧ error = arg.looseByteError := by
  rw [looseByteErrors, List.head?_map, List.head?_filter, Option.map_eq_some_iff]
  simp only [eq_comm]

end Arg

/-! ## Args in the order in which they are built -/

namespace Interface

mutual

def args : Interface → List Arg
  | ⟨_, _, _, interfaces, methods, _, signals⟩ =>
    argsAmong interfaces ++ methods.flatMap Member.args ++ signals.flatMap Member.args

/-- The args of all methods and signals in some interfaces, in the order in which they are
built. -/
def argsAmong : List Interface → List Arg
  | [] => []
  | i :: is => i.args ++ argsAmong is

end

theorem argsAmong_eq_flatMap (is : List Interface) : argsAmong is = is.flatMap args := by
  induction is with
  | nil => rfl
  | cons i is ih => rw [argsAmong, ih, List.flatMap_cons]

theorem args_eq (i : Interface) :
    i.args = i.interfaces.flatMap args ++ (i.members .method).flatMap Member.args ++
      (i.members .signal).flatMap Member.args := by
  cases i
  rw [args, argsAmong_eq_flatMap]
  rfl

theorem mem_args_iff {i : Interface} {arg : Arg} :
    arg ∈ i.args ↔ (∃ j ∈ i.interfaces, arg ∈ j.args) ∨
      ∃ (kind : MemberKind) (m : Member kind), m ∈ i.members kind ∧ arg ∈ m.args := by
  rw [args_eq, List.mem_append, List.mem_append, List.mem_flatMap, List.mem_flatMap,
    List.mem_flatMap, or_assoc]
  refine or_congr_right ?_
  constructor
  · rintro (⟨m, hm, harg⟩ | ⟨m, hm, harg⟩)
    · exact ⟨.method, m, hm, harg⟩
    · exact ⟨.signal, m, hm, harg⟩
  · rintro ⟨kind, m, hm, harg⟩
    cases kind with
    | method => exact .inl ⟨m, hm, harg⟩
    | signal => exact .inr ⟨m, hm, harg⟩

theorem exists_within_of_mem_args {interfaces : List Interface} {i : Interface} {arg : Arg}
    (hi : i ∈ interfaces) (harg : arg ∈ i.args) :
    ∃ (j : Interface) (kind : MemberKind) (m : Member kind),
      Within interfaces j ∧ m ∈ j.members kind ∧ arg ∈ m.args := by
  induction i generalizing interfaces with
  | interface i ih =>
    rcases mem_args_iff.1 harg with ⟨j, hj, harg⟩ | ⟨kind, m, hm, harg⟩
    · obtain ⟨j', kind, m, hwithin, hm, harg⟩ := ih j hj hj harg
      exact ⟨j', kind, m, .nested hi hwithin, hm, harg⟩
    · exact ⟨i, kind, m, .direct hi, hm, harg⟩

theorem mem_argsAmong_of_within {interfaces : List Interface} {i : Interface} {m : Member kind}
    {arg : Arg} (hi : Within interfaces i) (hm : m ∈ i.members kind) (harg : arg ∈ m.args) :
    arg ∈ argsAmong interfaces := by
  rw [argsAmong_eq_flatMap, List.mem_flatMap]
  induction hi with
  | direct hi => exact ⟨_, hi, mem_args_iff.2 (.inr ⟨kind, m, hm, harg⟩)⟩
  | nested hj _ ih => exact ⟨_, hj, mem_args_iff.2 (.inl (ih hm))⟩

theorem mem_argsAmong_iff {interfaces : List Interface} {arg : Arg} :
    arg ∈ argsAmong interfaces ↔
      ∃ (i : Interface) (kind : MemberKind) (m : Member kind),
        Within interfaces i ∧ m ∈ i.members kind ∧ arg ∈ m.args := by
  constructor
  · intro harg
    rw [argsAmong_eq_flatMap, List.mem_flatMap] at harg
    obtain ⟨i, hi, harg⟩ := harg
    exact exists_within_of_mem_args hi harg
  · rintro ⟨i, kind, m, hi, hm, harg⟩
    exact mem_argsAmong_of_within hi hm harg

end Interface

/-! ## Faults on the wire -/

/-- An arg that is built in native mode can have no fault but a loose byte. -/
theorem Arg.faults_wire {arg : Arg} (h : ofElement .native owner e = .ok arg) :
    faults .wire owner e = looseByteErrors [arg] := by
  obtain ⟨hname, howner, htype, -, hresolved, -⟩ := ofElement_eq_ok_iff.1 h
  obtain ⟨d, hparse, -⟩ := Signature.resolveSingle_eq_ok_iff.1 hresolved
  -- All but the type is looked at in the same way in both modes, so it has no fault here either.
  have hnative : faults .native owner e = [] := (reports_ofElement .native owner e).eq_nil h
  simp only [faults, List.append_eq_nil_iff] at hnative
  obtain ⟨⟨⟨hmissing, hdirection⟩, -⟩, hannotations⟩ := hnative
  have htypeFaults : e.typeFaults .wire owner = looseByteErrors [arg] := by
    rw [Element.typeFaults_of_type htype, Signature.faults, hparse, looseByteErrors, ← hname,
      ← howner]
    by_cases hloose : d.HasLooseByte
    · simp [hasLooseByte_iff hparse, hloose, looseByteError]
    · simp [hasLooseByte_iff hparse, hloose]
  rw [faults, hmissing, hdirection, hannotations, htypeFaults]
  simp

theorem Member.faults_wire {m : Member kind} (h : ofElement kind .native owner e = .ok m) :
    faults kind .wire owner e = Arg.looseByteErrors m.args := by
  obtain ⟨-, -, -, hargs, -⟩ := ofElement_eq_ok_iff.1 h
  have hnative : faults kind .native owner e = [] :=
    (reports_ofElement kind .native owner e).eq_nil h
  simp only [faults, List.append_eq_nil_iff] at hnative
  -- The joined types are as long on the wire, where they are resolved only after the args.
  obtain ⟨⟨hannotations, -⟩, hlength⟩ := hnative
  have hargFaults : (e.childrenNamed "arg").flatMap (Arg.faults .wire owner) =
      m.args.flatMap fun arg ↦ Arg.looseByteErrors [arg] :=
    flatMap_eq_of_mapM_eq_ok hargs fun _ _ _ harg ↦ Arg.faults_wire harg
  rw [faults, hannotations, hlength, hargFaults, ← Arg.looseByteErrors_flatMap]
  simp

theorem Interface.faults_wire {i : Interface} (h : ofElement .native e = .ok i) :
    faults .wire e = Arg.looseByteErrors i.args := by
  induction e generalizing i with
  | element e ih =>
    obtain ⟨hname, -, -, hinterfaces, hmembers, -⟩ := ofElement_eq_ok_iff.1 h
    have hnative : faults .native e = [] := (reports_ofElement .native e).eq_nil h
    simp only [faults_eq, List.append_eq_nil_iff] at hnative
    obtain ⟨⟨⟨⟨hannotations, -⟩, -⟩, hproperties⟩, -⟩ := hnative
    have hnested : (e.childrenNamed "interface").flatMap (faults .wire) =
        i.interfaces.flatMap fun j ↦ Arg.looseByteErrors j.args :=
      flatMap_eq_of_mapM_eq_ok hinterfaces fun child hchild _ hj ↦
        ih child (List.mem_of_mem_filter hchild) hj
    have hmemberFaults (kind : MemberKind) :
        (e.childrenNamed kind.tag).flatMap (Member.faults kind .wire (nodeName e)) =
          (i.members kind).flatMap fun m ↦ Arg.looseByteErrors m.args := by
      rw [← hname]
      exact flatMap_eq_of_mapM_eq_ok (hmembers kind) fun _ _ _ hm ↦ Member.faults_wire hm
    have hmethods := hmemberFaults .method
    have hsignals := hmemberFaults .signal
    simp only [MemberKind.tag] at hmethods hsignals
    rw [faults_eq, hannotations, hnested, hmethods, hproperties, hsignals, args_eq]
    simp only [Arg.looseByteErrors_append, Arg.looseByteErrors_flatMap, List.nil_append,
      List.append_nil]

/-- The faults of a native document on the wire are its args with a loose byte. -/
theorem Element.documentFaults_wire {root : Element} {natives : List Interface}
    (h : Interface.ofRoot .native root = .ok natives) :
    root.documentFaults .wire = Arg.looseByteErrors (Interface.argsAmong natives) := by
  rw [Interface.ofRoot, Interface.ofElements_eq_mapM] at h
  rw [Interface.argsAmong_eq_flatMap, Arg.looseByteErrors_flatMap]
  exact flatMap_eq_of_mapM_eq_ok h fun _ _ _ hi ↦ Interface.faults_wire hi

/-! ## Documents in both modes -/

/-- What is built on the wire is built in native mode, where it has no wrappers and is the same
otherwise. What is built in native mode is refused on the wire exactly if an arg has a loose byte,
and the first such arg is reported. -/
theorem ofRoot_wire_refines_native (root : Element) :
    (∀ wires, Interface.ofRoot .wire root = .ok wires →
      Interface.ofRoot .native root = .ok (wires.map Interface.erase)) ∧
    ∀ natives, Interface.ofRoot .native root = .ok natives →
      ((∃ error, Interface.ofRoot .wire root = .error error) ↔
        ∃ (i : Interface) (kind : MemberKind) (m : Member kind),
          Interface.Within natives i ∧ m ∈ i.members kind ∧ ∃ arg ∈ m.args, arg.HasLooseByte) ∧
      ∀ error, Interface.ofRoot .wire root = .error error ↔
        ∃ arg, (Interface.argsAmong natives).find? (·.HasLooseByte) = some arg ∧
          error = .signature (path arg.owner arg.name) (.noDefault "y") := by
  refine ⟨fun wires h ↦ Interface.ofRoot_native_of_wire h, ?_⟩
  intro natives h
  have hreports := Interface.reports_ofRoot .wire root
  rw [Element.documentFaults_wire h] at hreports
  have hfirst error := (hreports error).trans Arg.looseByteErrors_head?_eq_some_iff
  refine ⟨?_, hfirst⟩
  calc (∃ error, Interface.ofRoot .wire root = .error error)
    _ ↔ ∃ arg, (Interface.argsAmong natives).find? (·.HasLooseByte) = some arg := by
      simp only [hfirst, exists_comm, exists_eq_right]
    _ ↔ ∃ arg ∈ Interface.argsAmong natives, arg.HasLooseByte := by
      rw [← Option.isSome_iff_exists, List.find?_isSome]
      simp
    _ ↔ _ := by
      simp only [Interface.mem_argsAmong_iff]
      constructor
      · rintro ⟨arg, ⟨i, kind, m, hi, hm, harg⟩, hloose⟩
        exact ⟨i, kind, m, hi, hm, arg, harg, hloose⟩
      · rintro ⟨i, kind, m, hi, hm, arg, harg, hloose⟩
        exact ⟨arg, ⟨i, kind, m, hi, hm, harg⟩, hloose⟩

/-- A gauge whose readings are bytes, in an array for its method and alone for its property. -/
def gaugeDocument : Element :=
  ⟨"node", .empty,
    [⟨"interface", .ofList [("name", "org.example.Gauge")],
      [⟨"method", .ofList [("name", "Load")],
          [⟨"arg", .ofList [("name", "readings"), ("type", "a(ys)")], []⟩]⟩,
        ⟨"property", .ofList [("name", "Level"), ("type", "y"), ("access", "read")], []⟩]⟩]⟩

def load : Method where
  name := "Load"
  owner := "org.example.Gauge"
  annotations := []
  args := [⟨"readings", "org.example.Gauge", [], "a(ys)", .input,
    .wire "a(ys)" (.sequence
      (.wire "(ys)" (.tuple [.wire "y" (.integer .byte), .wire "s" (.text .string)])))⟩]
  defaults := [.wire "a(ys)" (.sequence
    (.wire "(ys)" (.tuple [.wire "y" (.integer .byte), .wire "s" (.text .string)])) [])]

def level : Property where
  name := "Level"
  owner := "org.example.Gauge"
  annotations := []
  type := "y"
  resolved := .integer .byte
  value := .integer 0
  access := "read"
  read := true
  write := false

def gauge : Interface :=
  ⟨"org.example.Gauge", "org.example.Gauge", [], [], [load], [level], []⟩

/-- A signal and a method that both have an arg with a loose byte. The method is built first,
although it stands behind the signal. -/
def probeDocument : Element :=
  ⟨"node", .empty,
    [⟨"interface", .ofList [("name", "org.example.Probe")],
      [⟨"signal", .ofList [("name", "Changed")],
          [⟨"arg", .ofList [("name", "level"), ("type", "y")], []⟩]⟩,
        ⟨"method", .ofList [("name", "Read")],
          [⟨"arg", .ofList [("name", "label"), ("type", "s"), ("direction", "out")], []⟩,
            ⟨"arg", .ofList [("name", "sample"), ("type", "(sy)"), ("direction", "out")],
              []⟩]⟩]⟩]⟩

def probeSample : Arg :=
  ⟨"sample", "org.example.Probe", [], "(sy)", .output, .tuple [.text .string, .integer .byte]⟩

def probe : Interface where
  name := "org.example.Probe"
  owner := "org.example.Probe"
  annotations := []
  interfaces := []
  methods :=
    [⟨"Read", "org.example.Probe", [],
      [⟨"label", "org.example.Probe", [], "s", .output, .text .string⟩, probeSample], []⟩]
  properties := []
  signals :=
    [⟨"Changed", "org.example.Probe", [],
      [⟨"level", "org.example.Probe", [], "y", .input, .integer .byte⟩], [.integer 0]⟩]

theorem ofRoot_wire_refines_native_gauge_probe :
    Interface.ofRoot .wire gaugeDocument = .ok [gauge] ∧
      Interface.ofRoot .native gaugeDocument = .ok [gauge.erase] ∧
      load.erase.defaults = [.sequence (.tuple [.integer .byte, .text .string]) []] ∧
      Interface.ofRoot .native probeDocument = .ok [probe] ∧
      Interface.ofRoot .wire probeDocument =
        .error (.signature "org.example.Probe.sample" (.noDefault "y")) := by
  have hgauge : Interface.ofRoot .wire gaugeDocument = .ok [gauge] := rfl
  have hprobe : Interface.ofRoot .native probeDocument = .ok [probe] := rfl
  have hnative := (ofRoot_wire_refines_native gaugeDocument).1 [gauge] hgauge
  obtain ⟨-, hfirst⟩ := (ofRoot_wire_refines_native probeDocument).2 [probe] hprobe
  exact ⟨hgauge, hnative, rfl, hprobe, (hfirst _).2 ⟨probeSample, rfl, rfl⟩⟩

end Introspection
