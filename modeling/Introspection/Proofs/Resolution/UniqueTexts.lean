import Introspection.Proofs.Resolution.Positions
import Introspection.Proofs.Signature.UniqueReading

/-!
# Texts stand for their descriptors

The text of a descriptor says which descriptor it is, and a joined text which descriptors it joins.
No limit is needed for this, nor any rule on keys or on members. So the signature that a node on the
wire keeps says what the node was made from, even if it could not be read as a signature.
-/

namespace Introspection.Descriptor

theorem join_text_inj {ds ds' : List Descriptor} :
    String.join (ds.map text) = String.join (ds'.map text) ↔ ds = ds' := by
  rw [Signature.join_text_eq_iff, Signature.toList_join_text]
  exact codesAll_injective.eq_iff

theorem text_isPrefix_iff {d d' : Descriptor} : d.text.toList <+: d'.text.toList ↔ d = d' := by
  rw [toList_text, toList_text]
  exact ⟨eq_of_codes_isPrefix, fun h ↦ h ▸ List.prefix_rfl⟩

theorem signature?_wired_eq_iff {d d' : Descriptor} :
    d.wired.signature? = some d'.text ↔ d' = d := by
  rw [signature?_wired, Option.some.injEq, text_injective.eq_iff, eq_comm]

/-- Joined texts are read in one way, texts are different and none is the beginning of another one,
whatever the descriptors are. So every node that resolving on the wire makes is made from a single
descriptor, the one that its signature is the text of. -/
theorem texts_uniquely_readable :
    (∀ ds ds' : List Descriptor,
      String.join (ds.map text) = String.join (ds'.map text) ↔ ds = ds') ∧
    Function.Injective text ∧
    (∀ d d' : Descriptor, d.text.toList <+: d'.text.toList ↔ d = d') ∧
    ∀ (d : Descriptor) (type node : ValueType),
      d.resolve .wire = .ok type → ValueType.StandsIn [type] node →
        ∃ part, wire true part = .ok node ∧
          ∀ d' : Descriptor, node.signature? = some d'.text ↔ d' = part := by
  refine ⟨fun _ _ ↦ join_text_inj, text_injective, fun _ _ ↦ text_isPrefix_iff, ?_⟩
  intro d type node htype hnode
  obtain ⟨-, rfl⟩ := resolve_wire_eq_ok_iff.1 htype
  have hroots : ValueType.StandsIn ([d].map wired) node := hnode
  obtain ⟨part, -, rfl⟩ := exists_wired_eq_of_standsIn (P := fun _ ↦ True) (fun _ _ ↦ trivial)
    (fun _ _ _ _ ↦ trivial) hroots
  exact ⟨part, wire_true part, fun _ ↦ signature?_wired_eq_iff⟩

/-- A dictionary whose keys are lists and whose values are empty structs. No signature holds it. -/
def index : Descriptor :=
  .dictionary (.array (.primitive .variant)) (.struct [])

theorem texts_uniquely_readable_index :
    index.resolve .wire = .ok index.wired ∧
      ValueType.StandsIn [index.wired] (.wire "()" (.tuple [])) ∧
      ∀ d : Descriptor,
        (ValueType.wire "()" (.tuple [])).signature? = some d.text ↔ d = .struct [] := by
  have hresolve : index.resolve .wire = .ok index.wired := rfl
  have hroot : ValueType.StandsIn [index.wired] _ := .root (List.mem_singleton_self _)
  have hvalue : ValueType.StandsIn [index.wired] (.wire "()" (.tuple [])) :=
    hroot.part (List.mem_cons_of_mem _ (List.mem_singleton_self _))
  obtain ⟨-, -, -, hnodes⟩ := texts_uniquely_readable
  obtain ⟨part, -, hpart⟩ := hnodes index index.wired _ hresolve hvalue
  have hstruct : part = .struct [] := ((hpart (.struct [])).1 rfl).symm
  exact ⟨hresolve, hvalue, hstruct ▸ hpart⟩

end Introspection.Descriptor
