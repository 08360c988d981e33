import Introspection.Proofs.Interface.Merge

/-!
# What each policy keeps

Where names must not be repeated, a merge leaves the interfaces as they are, and otherwise fails at
the first name that is seen again. The other policies never fail. They keep one interface of each
name at the place of the first one, and differ in which of the interfaces with the name it is.
-/

namespace Introspection.Interface

variable {policy : Policy} {is merged : List Interface} {i : Interface} {n : String} {error : Error}

/-! ## The interface that is kept -/

theorem kept?_keepFirst_eq_some_iff :
    Policy.keepFirst.kept? n is = some i ↔
      i.name = n ∧ ∃ before after, is = before ++ i :: after ∧ n ∉ before.map name := by
  simp [Policy.kept?, List.find?_eq_some_iff_append]

/-- The last interface of a name is the first one from behind. -/
theorem kept?_keepLast_eq_some_iff :
    Policy.keepLast.kept? n is = some i ↔
      i.name = n ∧ ∃ before after, is = before ++ i :: after ∧ n ∉ after.map name := by
  have hreverse : Policy.keepLast.kept? n is = Policy.keepFirst.kept? n is.reverse := rfl
  rw [hreverse, kept?_keepFirst_eq_some_iff]
  apply and_congr_right
  intro _
  constructor
  · rintro ⟨before, after, his, hbefore⟩
    refine ⟨after.reverse, before.reverse, ?_, by simpa using hbefore⟩
    rw [← List.reverse_reverse is, his]
    simp
  · rintro ⟨before, after, rfl, hafter⟩
    exact ⟨after.reverse, before.reverse, by simp, by simpa using hafter⟩

/-- Every interface that comes out of a merge is the one that the policy keeps. -/
theorem IsMerge.kept?_of_mem (h : IsMerge policy is merged) (hi : i ∈ merged) :
    policy.kept? i.name is = some i := by
  rw [← h.kept, find?_name_eq_some_iff h.nodup_names]
  exact ⟨hi, rfl⟩

/-- Only a policy that refuses repeated names can make a merge fail. -/
theorem exists_merge_of_ne_reject (policy : Policy) (h : policy ≠ .reject)
    (documents : List (List Interface)) :
    ∃ merged, merge policy documents = .ok merged ∧
      merged.map name = (documents.flatten.map name).eraseDups ∧
      ∀ i ∈ merged, policy.kept? i.name documents.flatten = some i := by
  obtain ⟨merged, hrun⟩ : ∃ merged, documents.flatten.foldlM (add policy) [] = .ok merged :=
    exists_run fun hpolicy ↦ absurd hpolicy h
  have hmerge := IsMerge.of_run hrun
  exact ⟨merged, hrun, hmerge.names, fun _ hi ↦ hmerge.kept?_of_mem hi⟩

/-! ## Names that must not be repeated -/

theorem isMerge_reject_iff : IsMerge .reject is merged ↔ (is.map name).Nodup ∧ merged = is := by
  constructor
  · intro h
    exact ⟨h.distinct rfl, h.unique (.of_nodup (h.distinct rfl))⟩
  · rintro ⟨hnodup, rfl⟩
    exact .of_nodup hnodup

theorem add_reject_eq_error_iff :
    add .reject merged i = .error error ↔
      i.name ∈ merged.map name ∧ error = .duplicateInterface i.name := by
  by_cases hi : i.name ∈ merged.map name
  · rw [add_of_mem .reject hi]
    simp [hi, eq_comm]
  · rw [add_of_not_mem .reject hi]
    simp [hi]

/-- A run that refuses repeated names stops at the first interface whose name has been seen. -/
theorem run_reject_eq_error_iff :
    is.foldlM (add .reject) [] = .error error ↔
      ∃ before i after, is = before ++ i :: after ∧ (before.map name).Nodup ∧
        i.name ∈ before.map name ∧ error = .duplicateInterface i.name := by
  constructor
  · intro h
    obtain ⟨before, i, after, merged, his, hbefore, hadd⟩ := exists_of_foldlM_eq_error h
    have hmerge := IsMerge.of_run hbefore
    obtain ⟨hi, herror⟩ := add_reject_eq_error_iff.1 hadd
    exact ⟨before, i, after, his, hmerge.distinct rfl, hmerge.mem_names_iff.1 hi, herror⟩
  · rintro ⟨before, i, after, rfl, hnodup, hi, rfl⟩
    have hbefore : before.foldlM (add .reject) [] = .ok before := run_eq_ok_iff.2 (.of_nodup hnodup)
    rw [List.foldlM_append, hbefore, ok_bind, List.foldlM_cons, add_of_mem .reject hi, error_bind]

/-! ## Merging -/

/-- A merge that refuses repeated names succeeds exactly if there are none, and changes nothing;
otherwise it fails with the first name that is seen again. The other policies always succeed, with
one interface of every name in the order in which the names are first seen: with the first
interface of the name, or with the last one. -/
theorem merge_follows_policy (documents : List (List Interface)) :
    (∀ merged, merge .reject documents = .ok merged ↔
      (documents.flatten.map name).Nodup ∧ merged = documents.flatten) ∧
    (∀ error, merge .reject documents = .error error ↔
      ∃ before i after, documents.flatten = before ++ i :: after ∧ (before.map name).Nodup ∧
        i.name ∈ before.map name ∧ error = .duplicateInterface i.name) ∧
    (∃ merged, merge .keepFirst documents = .ok merged ∧
      merged.map name = (documents.flatten.map name).eraseDups ∧
      ∀ i ∈ merged, ∃ before after, documents.flatten = before ++ i :: after ∧
        i.name ∉ before.map name) ∧
    ∃ merged, merge .keepLast documents = .ok merged ∧
      merged.map name = (documents.flatten.map name).eraseDups ∧
      ∀ i ∈ merged, ∃ before after, documents.flatten = before ++ i :: after ∧
        i.name ∉ after.map name := by
  refine ⟨fun _ ↦ merge_eq_ok_iff.trans isMerge_reject_iff, fun _ ↦ run_reject_eq_error_iff, ?_, ?_⟩
  · obtain ⟨merged, hmerge, hnames, hkept⟩ := exists_merge_of_ne_reject .keepFirst nofun documents
    exact ⟨merged, hmerge, hnames, fun i hi ↦ (kept?_keepFirst_eq_some_iff.1 (hkept i hi)).2⟩
  · obtain ⟨merged, hmerge, hnames, hkept⟩ := exists_merge_of_ne_reject .keepLast nofun documents
    exact ⟨merged, hmerge, hnames, fun i hi ↦ (kept?_keepLast_eq_some_iff.1 (hkept i hi)).2⟩

end Introspection.Interface
