import Introspection.Proofs.Resolution.Erasure

/-!
# Where resolving fails

Only a loose byte on the wire is ever refused a type, and everything that has a type has a default
as well. So the check that defaults make of bytes is never the one that fails: a signature has
defaults exactly if it has types, and otherwise both report the same error.
-/

namespace Introspection

namespace Descriptor

theorem default_of_resolve_eq_error_iff {d : Descriptor} {mode : Mode} {error : Signature.Error} :
    (d.resolve mode >>= ValueType.default) = .error error ↔ d.resolve mode = .error error := by
  rw [bind_eq_error_iff]
  apply or_iff_left
  rintro ⟨type, htype, herror⟩
  obtain ⟨value, hvalue⟩ := exists_default_of_resolve htype
  cases hvalue.symm.trans herror

end Descriptor

namespace Signature

variable {mode : Mode} {signature : String}

theorem resolve_eq_ok_iff {resolved : List ValueType} :
    resolve mode signature = .ok resolved ↔
      ∃ types, parse signature = .ok types ∧ types.mapM (Descriptor.resolve mode) = .ok resolved :=
  bind_eq_ok_iff

theorem defaults_eq_ok_iff {values : List Value} :
    defaults mode signature = .ok values ↔
      ∃ resolved, resolve mode signature = .ok resolved ∧
        resolved.mapM ValueType.default = .ok values :=
  bind_eq_ok_iff

/-- Every type of a signature has a default. -/
theorem exists_defaults_of_resolve {types : List ValueType}
    (h : resolve mode signature = .ok types) :
    ∃ values, defaults mode signature = .ok values ∧
      List.Forall₂ (fun type value ↦ type.default = .ok value) types values := by
  obtain ⟨ds, -, hds⟩ := resolve_eq_ok_iff.1 h
  have hdefault : ∀ type ∈ types, ∃ value, type.default = .ok value := by
    intro type htype
    obtain ⟨d, -, hd⟩ := exists_of_mapM_eq_ok hds htype
    exact Descriptor.exists_default_of_resolve hd
  obtain ⟨values, hvalues⟩ := exists_mapM_eq_ok hdefault
  exact ⟨values, defaults_eq_ok_iff.2 ⟨types, h, hvalues⟩, mapM_eq_ok_iff.1 hvalues⟩

theorem defaults_eq_error_of_resolve {error : Error} (h : resolve mode signature = .error error) :
    defaults mode signature = .error error :=
  bind_eq_error_iff.2 (.inl h)

end Signature

/-- Resolving fails on the wire only, and there for loose bytes only. Taking defaults adds no
failure of its own: the types and the defaults of a signature are there together, one for one, or
both are refused with the same error. -/
theorem resolve_fails_only_on_looseByte :
    (∀ (d : Descriptor) (error : Signature.Error),
      d.resolve .wire = .error error ↔ d.HasLooseByte ∧ error = .noDefault "y") ∧
    (∀ d : Descriptor, ∃ type, d.resolve .native = .ok type) ∧
    (∀ (d : Descriptor) (mode : Mode) (error : Signature.Error),
      (d.resolve mode >>= ValueType.default) = .error error ↔ d.resolve mode = .error error) ∧
    ∀ (signature : String) (mode : Mode),
      (∃ types values, Signature.resolve mode signature = .ok types ∧
        Signature.defaults mode signature = .ok values ∧ values.length = types.length ∧
        List.Forall₂ (fun type value ↦ type.default = .ok value) types values) ∨
      ∃ error, Signature.resolve mode signature = .error error ∧
        Signature.defaults mode signature = .error error := by
  refine ⟨fun _ _ ↦ Descriptor.resolve_wire_eq_error_iff, fun d ↦ ⟨d.native, rfl⟩,
    fun _ _ _ ↦ Descriptor.default_of_resolve_eq_error_iff, ?_⟩
  intro signature mode
  cases hresolve : Signature.resolve mode signature with
  | ok types =>
    obtain ⟨values, hvalues, hdefaults⟩ := Signature.exists_defaults_of_resolve hresolve
    exact .inl ⟨types, values, rfl, hvalues, hdefaults.length_eq.symm, hdefaults⟩
  | error error =>
    exact .inr ⟨error, rfl, Signature.defaults_eq_error_of_resolve hresolve⟩

end Introspection
