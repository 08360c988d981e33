import Introspection.Proofs.Interface.Sides
import Introspection.Proofs.Resolution.Erasure
import Mathlib.Data.List.Infix

/-!
# Faults

Every node lists all of its faults, in the order in which they are looked for. Building stops with
the first of them, and succeeds if there is none. In particular the default values of a member,
which are taken from the joined types of its args, can fail for the length of these types only.
-/

namespace Introspection

variable {mode : Mode} {owner : String} {e : Element} {kind : MemberKind}

/-! ## Lists of faults -/

def Element.missing (e : Element) (tag name : String) : List Error :=
  if (e.attribute? name).isSome then [] else [.missingAttribute tag (nodeName e) name]

/-- The faults of the annotations below an element. -/
def Annotation.faults (e : Element) : List Error :=
  (e.childrenNamed "annotation").flatMap fun annotation ↦ annotation.missing "annotation" "value"

/-- The faults of a signature that is to hold a single type. -/
def Signature.faults (mode : Mode) (signature : String) : List Signature.Error :=
  match parseSingle signature with
  | .ok d => if mode = .wire ∧ d.HasLooseByte then [.noDefault "y"] else []
  | .error error => [error]

/-- The faults of the type that an element has, if it has one. -/
def Element.typeFaults (mode : Mode) (owner : String) (e : Element) : List Error :=
  ((e.attribute? "type").toList.flatMap (Signature.faults mode)).map
    (.signature (path owner (nodeName e)))

def Direction.faults (owner : String) (e : Element) : List Error :=
  ((e.attribute? "direction").toList.filter fun text ↦ text ≠ "in" ∧ text ≠ "out").map
    (.invalidDirection (path owner (nodeName e)))

def Arg.faults (mode : Mode) (owner : String) (e : Element) : List Error :=
  e.missing "arg" "type" ++ Direction.faults owner e ++ e.typeFaults mode owner ++
    Annotation.faults e

/-- Whether an element is an arg on the input side of a member. -/
def MemberKind.takes : MemberKind → Element → Bool
  | method, e => e.attribute? "direction" = none ∨ e.attribute? "direction" = some "in"
  | signal, _ => true

/-- The types of the args on the input side, one after the other. -/
def Member.inputTypes (kind : MemberKind) (e : Element) : String :=
  String.join
    (((e.childrenNamed "arg").filter kind.takes).map fun arg ↦ (arg.attribute? "type").getD "")

def Member.lengthFaults (kind : MemberKind) (owner : String) (e : Element) : List Error :=
  if (inputTypes kind e).utf8ByteSize ≤ 255 then []
  else [.signature (path owner (nodeName e))
    (.unreadable (inputTypes kind e) ⟨255, .tooLong⟩)]

def Member.faults (kind : MemberKind) (mode : Mode) (owner : String) (e : Element) : List Error :=
  Annotation.faults e ++ (e.childrenNamed "arg").flatMap (Arg.faults mode owner) ++
    lengthFaults kind owner e

/-- The text contains one of the words `read` and `write`. -/
def Property.IsAccess (access : String) : Prop :=
  "read".toList <:+: access.toList ∨ "write".toList <:+: access.toList

instance : DecidablePred Property.IsAccess :=
  fun _ ↦ inferInstanceAs (Decidable (_ ∨ _))

def Property.accessFaults (owner : String) (e : Element) : List Error :=
  ((e.attribute? "access").toList.filter (¬ IsAccess ·)).map
    (.invalidAccess (path owner (nodeName e)))

/-- Properties are native in either mode. -/
def Property.faults (owner : String) (e : Element) : List Error :=
  e.missing "property" "type" ++ e.missing "property" "access" ++ accessFaults owner e ++
    e.typeFaults .native owner ++ Annotation.faults e

namespace Interface

mutual

def faults (mode : Mode) : Element → List Error
  | e@⟨_, _, children⟩ =>
    Annotation.faults e ++ faultsAmong mode children ++
      (e.childrenNamed "method").flatMap (Member.faults .method mode (nodeName e)) ++
      (e.childrenNamed "property").flatMap (Property.faults (nodeName e)) ++
      (e.childrenNamed "signal").flatMap (Member.faults .signal mode (nodeName e))

/-- The faults of the interfaces among some elements. -/
def faultsAmong (mode : Mode) : List Element → List Error
  | [] => []
  | e :: es => if e.tag = "interface" then faults mode e ++ faultsAmong mode es
    else faultsAmong mode es

end

theorem faultsAmong_eq_flatMap (mode : Mode) (es : List Element) :
    faultsAmong mode es = (es.filter fun e ↦ e.tag == "interface").flatMap (faults mode) := by
  induction es with
  | nil => rfl
  | cons e es ih =>
    rw [faultsAmong]
    split
    · next h => rw [List.filter_cons_of_pos (by simpa using h), List.flatMap_cons, ih]
    · next h => rw [List.filter_cons_of_neg (by simpa using h), ih]

theorem faults_eq (mode : Mode) (e : Element) :
    faults mode e =
      Annotation.faults e ++ (e.childrenNamed "interface").flatMap (faults mode) ++
        (e.childrenNamed "method").flatMap (Member.faults .method mode (nodeName e)) ++
        (e.childrenNamed "property").flatMap (Property.faults (nodeName e)) ++
        (e.childrenNamed "signal").flatMap (Member.faults .signal mode (nodeName e)) := by
  obtain ⟨tag, attributes, children⟩ := e
  rw [faults, faultsAmong_eq_flatMap]
  rfl

end Interface

/-- All faults of a document in the order in which they are looked for. -/
def Element.documentFaults (mode : Mode) (root : Element) : List Error :=
  (root.childrenNamed "interface").flatMap (Interface.faults mode)

/-! ## Faults of attributes -/

theorem reports_required (e : Element) (tag name : String) :
    Reports (required e tag name) (e.missing tag name) := by
  unfold required Element.missing
  split
  · next h => simpa [h] using Reports.ok _
  · next h => simpa [h] using Reports.error _ []

theorem Annotation.reports_ofChildren (owner : String) (e : Element) :
    Reports (ofChildren owner e) (faults e) :=
  .mapM fun annotation _ ↦ (reports_required annotation "annotation" "value").bind_return _

theorem Direction.reports_ofElement (owner : String) (e : Element) :
    Reports (ofElement owner e) (faults owner e) := by
  unfold ofElement faults
  cases e.attribute? "direction" with
  | none => exact .ok _
  | some text =>
    by_cases hin : text = "in"
    · subst hin
      exact .ok _
    by_cases hout : text = "out"
    · subst hout
      exact .ok _
    have hnone : ofText? text = none := by
      simp [ofText?, Direction.text, Ne.symm hin, Ne.symm hout]
    simpa [hnone, hin, hout] using Reports.error _ []

/-! ## Faults of types -/

theorem Signature.reports_resolveSingle (mode : Mode) (signature : String) :
    Reports (resolveSingle mode signature) (faults mode signature) := by
  unfold resolveSingle faults
  cases parseSingle signature with
  | error error => exact .error error []
  | ok d => exact d.reports_resolve mode

theorem Element.typeFaults_of_type {type : String} (htype : e.attribute? "type" = some type) :
    e.typeFaults mode owner =
      (Signature.faults mode type).map (.signature (path owner (nodeName e))) := by
  simp [typeFaults, htype]

theorem Element.reports_resolveType {type : String} (htype : e.attribute? "type" = some type) :
    Reports ((Signature.resolveSingle mode type).mapError (.signature (path owner (nodeName e))))
      (e.typeFaults mode owner) := by
  rw [typeFaults_of_type htype]
  exact (Signature.reports_resolveSingle mode type).mapError _

/-! ## Faults of args and members -/

theorem Arg.reports_ofElement (mode : Mode) (owner : String) (e : Element) :
    Reports (ofElement mode owner e) (faults mode owner e) := by
  simp only [faults, List.append_assoc]
  refine (reports_required e "arg" "type").bind fun type htype ↦ ?_
  refine (Direction.reports_ofElement owner e).bind fun direction _ ↦ ?_
  refine (Element.reports_resolveType (required_eq_ok_iff.1 htype)).bind fun resolved _ ↦ ?_
  have hannotations := Annotation.reports_ofChildren owner e
  exact hannotations.bind_return _

/-- The default values of args can fail only for the length of their joined types. -/
theorem Arg.reports_defaults {args : List Arg}
    (h : ∀ arg ∈ args, Signature.resolveSingle mode arg.type = .ok arg.resolved) :
    Reports (Signature.defaults mode (String.join (args.map type)))
      (if (String.join (args.map type)).utf8ByteSize ≤ 255 then []
        else [.unreadable (String.join (args.map type)) ⟨255, .tooLong⟩]) := by
  split
  · next hlen =>
    have hdefaults : ∀ arg ∈ args, ∃ value, arg.resolved.default = .ok value := by
      intro arg harg
      obtain ⟨d, -, hd⟩ := Signature.resolveSingle_eq_ok_iff.1 (h arg harg)
      exact Descriptor.exists_default_of_resolve hd
    obtain ⟨values, hvalues⟩ := exists_mapM_eq_ok hdefaults
    have hjoin : Signature.defaults mode (String.join (args.map type)) = .ok values := by
      refine Signature.defaults_eq_ok_iff.2 ⟨args.map resolved, resolve_join h hlen, ?_⟩
      rw [List.mapM_map]
      exact hvalues
    rw [hjoin]
    exact .ok values
  · next hlen =>
    have hparse := Signature.parse_eq_tooLong (Nat.lt_of_not_le hlen)
    have hjoin : Signature.defaults mode (String.join (args.map type)) =
        .error (.unreadable (String.join (args.map type)) ⟨255, .tooLong⟩) := by
      rw [Signature.defaults, Signature.resolve, hparse, error_bind, error_bind]
    rw [hjoin]
    exact .error _ []

theorem Arg.type_of_ofElement {arg : Arg} (h : ofElement mode owner e = .ok arg) :
    arg.type = (e.attribute? "type").getD "" := by
  obtain ⟨-, -, htype, -⟩ := ofElement_eq_ok_iff.1 h
  rw [htype, Option.getD_some]

theorem MemberKind.includes_of_ofElement {arg : Arg} (h : Arg.ofElement mode owner e = .ok arg) :
    kind.includes .input arg = kind.takes e := by
  obtain ⟨-, -, -, hdirection, -⟩ := Arg.ofElement_eq_ok_iff.1 h
  cases kind with
  | signal => rfl
  | method =>
    unfold includes takes
    rcases Direction.ofElement_eq_ok_iff.1 hdirection with hdirection | ⟨hdirection, hinput⟩
    · cases hd : arg.direction <;> simp [hdirection, hd, Direction.text]
    · simp [hdirection, hinput]

/-- What an arg adds to the joined types of its member can be read off its element. -/
theorem Arg.map_type_filter {es : List Element} {args : List Arg}
    (h : List.Forall₂ (fun e arg ↦ ofElement mode owner e = .ok arg) es args) :
    (args.filter (kind.includes .input)).map type =
      (es.filter kind.takes).map fun e ↦ (e.attribute? "type").getD "" := by
  induction h with
  | nil => rfl
  | cons harg _ ih =>
    rw [List.filter_cons, List.filter_cons, MemberKind.includes_of_ofElement harg]
    split
    · rw [List.map_cons, List.map_cons, type_of_ofElement harg, ih]
    · exact ih

theorem Member.signature_eq_inputTypes {m : Member kind}
    (h : (e.childrenNamed "arg").mapM (Arg.ofElement mode owner) = .ok m.args) :
    m.signature .input = inputTypes kind e :=
  congrArg String.join (Arg.map_type_filter (mapM_eq_ok_iff.1 h))

theorem Member.reports_ofElement (kind : MemberKind) (mode : Mode) (owner : String) (e : Element) :
    Reports (ofElement kind mode owner e) (faults kind mode owner e) := by
  simp only [faults, List.append_assoc]
  have hannotations := Annotation.reports_ofChildren owner e
  refine hannotations.bind fun annotations _ ↦ ?_
  refine Reports.bind (.mapM fun arg _ ↦ Arg.reports_ofElement mode owner arg) fun args hargs ↦ ?_
  refine Reports.bind_return ?_ _
  let bare : Member kind := ⟨nodeName e, owner, annotations, args, []⟩
  have hsignature : bare.signature .input = inputTypes kind e := signature_eq_inputTypes hargs
  have hresolved : ∀ arg ∈ args.filter (kind.includes .input),
      Signature.resolveSingle mode arg.type = .ok arg.resolved := by
    intro arg harg
    obtain ⟨e, -, he⟩ := exists_of_mapM_eq_ok hargs (List.mem_of_mem_filter harg)
    obtain ⟨-, -, -, -, hresolved, -⟩ := Arg.ofElement_eq_ok_iff.1 he
    exact hresolved
  have hfaults : lengthFaults kind owner e =
      (if (inputTypes kind e).utf8ByteSize ≤ 255 then []
        else [.unreadable (inputTypes kind e) ⟨255, .tooLong⟩]).map
          (.signature (path owner (nodeName e))) := by
    unfold lengthFaults
    split <;> rfl
  rw [hfaults, ← hsignature, kind.takesDefault_eq_includes]
  exact (Arg.reports_defaults hresolved).mapError _

/-! ## Faults of properties -/

theorem Property.occurs_iff_infix {word text : List Char} :
    occurs word text = true ↔ word <:+: text := by
  induction text with
  | nil => simp [occurs, List.isEmpty_iff]
  | cons c rest ih =>
    rw [occurs, Bool.or_eq_true, ih, List.isPrefixOf_iff_prefix, List.infix_cons_iff]

theorem Property.grants_iff_isAccess {access : String} :
    (grants access "read" || grants access "write") = true ↔ IsAccess access := by
  rw [Bool.or_eq_true, grants, grants, occurs_iff_infix, occurs_iff_infix, IsAccess]

theorem Property.reports_ofElement (owner : String) (e : Element) :
    Reports (ofElement owner e) (faults owner e) := by
  simp only [faults, List.append_assoc]
  refine (reports_required e "property" "type").bind fun type htype ↦ ?_
  refine (reports_required e "property" "access").bind fun access haccess ↦ ?_
  have htype : e.attribute? "type" = some type := required_eq_ok_iff.1 htype
  have haccess : e.attribute? "access" = some access := required_eq_ok_iff.1 haccess
  by_cases hgrants : (grants access "read" || grants access "write") = true
  · have hfaults : accessFaults owner e = [] := by
      simp [accessFaults, haccess, grants_iff_isAccess.1 hgrants]
    rw [hfaults, if_pos hgrants]
    refine (Element.reports_resolveType htype).bind fun resolved hresolved ↦ ?_
    obtain ⟨d, -, hd⟩ := Signature.resolveSingle_eq_ok_iff.1 (mapError_eq_ok_iff.1 hresolved)
    obtain ⟨value, hvalue⟩ := Descriptor.exists_default_of_resolve hd
    have hannotations := Annotation.reports_ofChildren owner e
    rw [hvalue]
    exact hannotations.bind_return _
  · have hfaults : accessFaults owner e = [.invalidAccess (path owner (nodeName e)) access] := by
      simp [accessFaults, haccess, grants_iff_isAccess.not.1 hgrants]
    rw [hfaults, if_neg hgrants]
    exact .error _ _

/-! ## Faults of interfaces and documents -/

namespace Interface

theorem reports_ofElement (mode : Mode) (e : Element) :
    Reports (ofElement mode e) (faults mode e) := by
  induction e with
  | element e ih =>
    rw [ofElement_eq, faults_eq]
    simp only [List.append_assoc]
    have hannotations := Annotation.reports_ofChildren (nodeName e) e
    refine hannotations.bind fun annotations _ ↦ ?_
    refine Reports.bind (.mapM fun e he ↦ ih e (List.mem_of_mem_filter he)) fun interfaces _ ↦ ?_
    refine Reports.bind (.mapM fun e _ ↦ Member.reports_ofElement .method mode _ e) fun _ _ ↦ ?_
    refine Reports.bind (.mapM fun e _ ↦ Property.reports_ofElement _ e) fun _ _ ↦ ?_
    exact Reports.bind_return (.mapM fun e _ ↦ Member.reports_ofElement .signal mode _ e) _

theorem reports_ofRoot (mode : Mode) (root : Element) :
    Reports (ofRoot mode root) (root.documentFaults mode) := by
  rw [ofRoot, ofElements_eq_mapM]
  exact .mapM fun e _ ↦ reports_ofElement mode e

end Interface

end Introspection
