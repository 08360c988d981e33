import Introspection.Interface.Merge
import Introspection.Proofs.Outcome
import Mathlib.Data.List.Induction
import Mathlib.Data.List.Nodup

/-!
# What merging makes of interfaces

The outcome of a merge is described without the order in which interfaces are added: each name has
its place by its first occurrence, and the policy says which occurrence is kept. The boundaries of
documents play no part in this, so that documents can be merged in groups.
-/

namespace Introspection

/-! ## First occurrences -/

section FirstOccurrences

variable {α : Type} [BEq α] [LawfulBEq α] {l : List α}

theorem eraseDups_concat (l : List α) (a : α) :
    (l ++ [a]).eraseDups = if a ∈ l then l.eraseDups else l.eraseDups ++ [a] := by
  rw [List.eraseDups_append]
  by_cases h : a ∈ l <;> simp [List.removeAll, h, List.eraseDups_cons]

theorem nodup_eraseDups (l : List α) : l.eraseDups.Nodup := by
  induction l using List.reverseRecOn with
  | nil => simp
  | append_singleton l a ih =>
    rw [eraseDups_concat]
    split
    · exact ih
    · next h =>
      rw [← List.concat_eq_append, List.nodup_concat, List.mem_eraseDups]
      exact ⟨h, ih⟩

theorem eraseDups_of_nodup (h : l.Nodup) : l.eraseDups = l := by
  induction l using List.reverseRecOn with
  | nil => simp
  | append_singleton l a ih =>
    rw [← List.concat_eq_append, List.nodup_concat] at h
    rw [eraseDups_concat, if_neg h.1, ih h.2]

/-- The first occurrences in two parts are enough to find those in the whole. -/
theorem eraseDups_append_eraseDups (l l' : List α) :
    (l.eraseDups ++ l'.eraseDups).eraseDups = (l ++ l').eraseDups := by
  induction l' using List.reverseRecOn with
  | nil => simpa using eraseDups_of_nodup (nodup_eraseDups l)
  | append_singleton l' a ih =>
    rw [← List.append_assoc, eraseDups_concat (l ++ l'), eraseDups_concat l', ← ih]
    by_cases ha : a ∈ l'
    · simp [ha]
    · rw [if_neg ha, ← List.append_assoc, eraseDups_concat]
      simp [List.mem_eraseDups]

end FirstOccurrences

/-- Of the interfaces with a name, the one that a policy keeps. -/
def Policy.kept? (policy : Policy) (name : String) (is : List Interface) : Option Interface :=
  match policy with
  | .reject | .keepFirst => is.find? (·.name == name)
  | .keepLast => is.reverse.find? (·.name == name)

namespace Interface

/-- The outcome of a merge. -/
structure IsMerge (policy : Policy) (is merged : List Interface) : Prop where
  names : merged.map name = (is.map name).eraseDups
  kept : ∀ n, merged.find? (·.name == n) = policy.kept? n is
  distinct : policy = .reject → (is.map name).Nodup

variable {policy : Policy} {is js merged merged' : List Interface} {i : Interface}

/-! ## Interfaces by name -/

theorem find?_name_eq_none_iff {n : String} :
    is.find? (·.name == n) = none ↔ n ∉ is.map name := by
  simp

theorem find?_name_eq_some_iff (h : (is.map name).Nodup) {n : String} :
    is.find? (·.name == n) = some i ↔ i ∈ is ∧ i.name = n := by
  constructor
  · intro hfind
    exact ⟨List.mem_of_find?_eq_some hfind, by simpa using List.find?_some hfind⟩
  · rintro ⟨hi, rfl⟩
    obtain ⟨j, hj⟩ : ∃ j, is.find? (·.name == i.name) = some j := by
      rw [← Option.isSome_iff_exists, List.find?_isSome]
      exact ⟨i, hi, by simp⟩
    have hname : j.name = i.name := by simpa using List.find?_some hj
    rw [hj, List.inj_on_of_nodup_map h (List.mem_of_find?_eq_some hj) hi hname]

/-- Interfaces with distinct names are found in the order of their names. -/
theorem filterMap_find?_names (h : (is.map name).Nodup) :
    (is.map name).filterMap (fun n ↦ is.find? (·.name == n)) = is := by
  induction is with
  | nil => rfl
  | cons i is ih =>
    obtain ⟨hi, his⟩ := List.nodup_cons.1 h
    have hrest : (is.map name).filterMap (fun n ↦ (i :: is).find? (·.name == n)) =
        (is.map name).filterMap (fun n ↦ is.find? (·.name == n)) := by
      apply List.filterMap_congr
      intro n hn
      have hne : i.name ≠ n := fun heq ↦ hi (heq ▸ hn)
      simp [hne]
    rw [List.map_cons, List.filterMap_cons, hrest, ih his]
    simp

theorem kept?_append (policy : Policy) (n : String) (is js : List Interface) :
    policy.kept? n (is ++ js) =
      if policy = .keepLast then (policy.kept? n js).or (policy.kept? n is)
      else (policy.kept? n is).or (policy.kept? n js) := by
  cases policy <;> simp [Policy.kept?, List.find?_append]

theorem kept?_eq_none_iff {n : String} : policy.kept? n is = none ↔ n ∉ is.map name := by
  cases policy <;> simp [Policy.kept?]

theorem kept?_singleton (policy : Policy) (n : String) (i : Interface) :
    policy.kept? n [i] = if i.name = n then some i else none := by
  by_cases h : i.name = n <;> cases policy <;> simp [Policy.kept?, h]

/-- Where names are distinct, there is no choice. -/
theorem kept?_of_nodup (h : (is.map name).Nodup) (n : String) :
    policy.kept? n is = is.find? (·.name == n) := by
  have hreverse : (is.reverse.map name).Nodup := by
    rw [List.map_reverse, List.nodup_reverse]
    exact h
  cases policy with
  | reject | keepFirst => rfl
  | keepLast =>
    apply Option.ext
    intro i
    rw [Policy.kept?, find?_name_eq_some_iff hreverse, find?_name_eq_some_iff h, List.mem_reverse]

theorem map_name_replace (i : Interface) (merged : List Interface) :
    (i.replace merged).map name = merged.map name := by
  rw [replace, List.map_map]
  apply List.map_congr_left
  intro old _
  by_cases h : old.name = i.name <;> simp [h]

theorem find?_replace (h : i.name ∈ merged.map name) (n : String) :
    (i.replace merged).find? (·.name == n) =
      if i.name = n then some i else merged.find? (·.name == n) := by
  have hname : (fun j : Interface ↦ j.name == n) ∘ (fun old ↦ if old.name = i.name then i else old) =
      fun old ↦ old.name == n := by
    funext old
    by_cases h : old.name = i.name <;> simp [h]
  rw [replace, List.find?_map, hname]
  cases hfind : merged.find? (·.name == n) with
  | none =>
    have hne : i.name ≠ n := fun heq ↦ find?_name_eq_none_iff.1 hfind (heq ▸ h)
    simp [hne]
  | some old =>
    have hold : old.name = n := by simpa using List.find?_some hfind
    by_cases hn : i.name = n
    · simp [hn, hold]
    · simp [hn, hold, Ne.symm hn]

/-! ## Adding interfaces -/

theorem run_concat (policy : Policy) (is : List Interface) (i : Interface) :
    (is ++ [i]).foldlM (add policy) [] =
      (do
        let merged ← is.foldlM (add policy) []
        add policy merged i) := by
  simp only [List.foldlM_append, List.foldlM_cons, List.foldlM_nil, bind_pure]

theorem add_of_not_mem (policy : Policy) (h : i.name ∉ merged.map name) :
    add policy merged i = .ok (merged ++ [i]) := by
  apply if_neg
  simpa using h

theorem add_of_mem (policy : Policy) (h : i.name ∈ merged.map name) :
    add policy merged i =
      match policy with
      | .reject => .error (.duplicateInterface i.name)
      | .keepFirst => .ok merged
      | .keepLast => .ok (i.replace merged) := by
  apply if_pos
  simpa using h

namespace IsMerge

theorem mem_names_iff (h : IsMerge policy is merged) {n : String} :
    n ∈ merged.map name ↔ n ∈ is.map name := by
  rw [h.names, List.mem_eraseDups]

theorem nodup_names (h : IsMerge policy is merged) : (merged.map name).Nodup := by
  rw [h.names]
  exact nodup_eraseDups _

/-- The outcome is determined by what it is described by. -/
theorem unique (h : IsMerge policy is merged) (h' : IsMerge policy is merged') :
    merged = merged' := by
  have hkept : (fun n ↦ merged.find? (·.name == n)) = fun n ↦ merged'.find? (·.name == n) :=
    funext fun n ↦ (h.kept n).trans (h'.kept n).symm
  calc merged
      = (merged.map name).filterMap fun n ↦ merged.find? (·.name == n) :=
        (filterMap_find?_names h.nodup_names).symm
    _ = (merged'.map name).filterMap fun n ↦ merged'.find? (·.name == n) := by
        rw [hkept, h.names, h'.names]
    _ = merged' := filterMap_find?_names h'.nodup_names

/-- Interfaces with distinct names stay as they are. -/
theorem of_nodup (h : (is.map name).Nodup) : IsMerge policy is is where
  names := (eraseDups_of_nodup h).symm
  kept := fun n ↦ (kept?_of_nodup h n).symm
  distinct := fun _ ↦ h

theorem nil (policy : Policy) : IsMerge policy [] [] where
  names := rfl
  kept := by cases policy <;> exact fun _ ↦ rfl
  distinct := fun _ ↦ List.nodup_nil

/-- An interface of a new name gets a place of its own. -/
theorem concat_of_not_mem (h : IsMerge policy is merged) (hi : i.name ∉ is.map name) :
    IsMerge policy (is ++ [i]) (merged ++ [i]) where
  names := by
    rw [List.map_append, List.map_append, List.map_singleton, eraseDups_concat, if_neg hi, h.names]
  kept := by
    intro n
    rw [List.find?_append, h.kept, kept?_append, kept?_singleton]
    by_cases hn : i.name = n
    · have hnone : policy.kept? n is = none := kept?_eq_none_iff.2 (hn ▸ hi)
      simp [hn, hnone]
    · simp [hn]
  distinct := by
    intro hpolicy
    rw [List.map_append, List.map_singleton, ← List.concat_eq_append, List.nodup_concat]
    exact ⟨hi, h.distinct hpolicy⟩

theorem names_concat_of_mem (h : IsMerge policy is merged) (hi : i.name ∈ is.map name) :
    merged.map name = ((is ++ [i]).map name).eraseDups := by
  rw [List.map_append, List.map_singleton, eraseDups_concat, if_pos hi, h.names]

theorem concat_of_mem_keepFirst (h : IsMerge .keepFirst is merged) (hi : i.name ∈ is.map name) :
    IsMerge .keepFirst (is ++ [i]) merged where
  names := h.names_concat_of_mem hi
  kept := by
    intro n
    rw [h.kept, kept?_append, kept?_singleton]
    by_cases hn : i.name = n
    · obtain ⟨old, hold⟩ : ∃ old, Policy.keepFirst.kept? n is = some old :=
        Option.ne_none_iff_exists'.1 fun hnone ↦ kept?_eq_none_iff.1 hnone (hn ▸ hi)
      simp [hold]
    · simp [hn]
  distinct := nofun

theorem concat_of_mem_keepLast (h : IsMerge .keepLast is merged) (hi : i.name ∈ is.map name) :
    IsMerge .keepLast (is ++ [i]) (i.replace merged) where
  names := (map_name_replace i merged).trans (h.names_concat_of_mem hi)
  kept := by
    intro n
    rw [find?_replace (h.mem_names_iff.2 hi), h.kept, kept?_append, kept?_singleton]
    by_cases hn : i.name = n <;> simp [hn]
  distinct := nofun

/-- What adding one interface does to the outcome. -/
theorem add (h : IsMerge policy is merged) (hadd : Interface.add policy merged i = .ok merged') :
    IsMerge policy (is ++ [i]) merged' := by
  by_cases hi : i.name ∈ is.map name
  · rw [add_of_mem policy (h.mem_names_iff.2 hi)] at hadd
    cases policy with
    | reject => cases hadd
    | keepFirst =>
      cases hadd
      exact h.concat_of_mem_keepFirst hi
    | keepLast =>
      cases hadd
      exact h.concat_of_mem_keepLast hi
  · rw [add_of_not_mem policy (hi ∘ h.mem_names_iff.1)] at hadd
    cases hadd
    exact h.concat_of_not_mem hi

theorem of_run (h : is.foldlM (Interface.add policy) [] = .ok merged) :
    IsMerge policy is merged := by
  induction is using List.reverseRecOn generalizing merged with
  | nil =>
    cases h
    exact .nil policy
  | append_singleton is i ih =>
    rw [run_concat, bind_eq_ok_iff] at h
    obtain ⟨before, hbefore, hadd⟩ := h
    exact (ih hbefore).add hadd

end IsMerge

/-! ## Merging -/

/-- Only a repeated name can make a merge fail, and only if names are not to be repeated. -/
theorem exists_run (h : policy = .reject → (is.map name).Nodup) :
    ∃ merged, is.foldlM (add policy) [] = .ok merged := by
  induction is using List.reverseRecOn with
  | nil => exact ⟨[], rfl⟩
  | append_singleton is i ih =>
    rw [List.map_append, List.map_singleton, ← List.concat_eq_append, List.nodup_concat] at h
    obtain ⟨before, hbefore⟩ := ih fun hpolicy ↦ (h hpolicy).2
    rw [run_concat, hbefore, ok_bind]
    by_cases hi : i.name ∈ before.map name
    · rw [add_of_mem policy hi]
      cases policy with
      | reject =>
        have hi : i.name ∈ is.map name := (IsMerge.of_run hbefore).mem_names_iff.1 hi
        exact absurd hi (h rfl).1
      | keepFirst => exact ⟨before, rfl⟩
      | keepLast => exact ⟨i.replace before, rfl⟩
    · exact ⟨before ++ [i], add_of_not_mem policy hi⟩

theorem run_eq_ok_iff : is.foldlM (add policy) [] = .ok merged ↔ IsMerge policy is merged := by
  constructor
  · exact .of_run
  · intro h
    obtain ⟨merged', hrun⟩ := exists_run h.distinct
    rw [hrun, h.unique (.of_run hrun)]

/-- A merge succeeds exactly with the outcome described. -/
theorem merge_eq_ok_iff {documents : List (List Interface)} :
    merge policy documents = .ok merged ↔ IsMerge policy documents.flatten merged :=
  run_eq_ok_iff

/-- Interfaces that have been merged stay as they are. -/
theorem run_of_isMerge (h : IsMerge policy is merged) :
    merged.foldlM (add policy) [] = .ok merged :=
  run_eq_ok_iff.2 (.of_nodup h.nodup_names)

/-- Two lists may be merged on their own before they are merged with each other. -/
theorem isMerge_append_iff {m n : List Interface} (hm : IsMerge policy is m)
    (hn : IsMerge policy js n) :
    IsMerge policy (m ++ n) merged ↔ IsMerge policy (is ++ js) merged := by
  have hnames : ((m ++ n).map name).eraseDups = ((is ++ js).map name).eraseDups := by
    rw [List.map_append, List.map_append, hm.names, hn.names, eraseDups_append_eraseDups]
  have hkept (key : String) : policy.kept? key (m ++ n) = policy.kept? key (is ++ js) := by
    rw [kept?_append, kept?_append, kept?_of_nodup hm.nodup_names, kept?_of_nodup hn.nodup_names,
      hm.kept, hn.kept]
  have hdistinct (hpolicy : policy = .reject) : (m ++ n).map name = (is ++ js).map name := by
    rw [List.map_append, List.map_append, hm.names, hn.names,
      eraseDups_of_nodup (hm.distinct hpolicy), eraseDups_of_nodup (hn.distinct hpolicy)]
  constructor
  · intro h
    exact ⟨h.names.trans hnames, fun key ↦ (h.kept key).trans (hkept key),
      fun hpolicy ↦ hdistinct hpolicy ▸ h.distinct hpolicy⟩
  · intro h
    exact ⟨h.names.trans hnames.symm, fun key ↦ (h.kept key).trans (hkept key).symm,
      fun hpolicy ↦ hdistinct hpolicy ▸ h.distinct hpolicy⟩

/-! ## Merging in groups -/

theorem merge_append_eq_ok_iff {xs ys : List (List Interface)} :
    merge policy (xs ++ ys) = .ok merged ↔
      ∃ m n, merge policy xs = .ok m ∧ merge policy ys = .ok n ∧
        merge policy [m, n] = .ok merged := by
  have hpair (m n : List Interface) : [m, n].flatten = m ++ n := by simp
  simp only [merge_eq_ok_iff, List.flatten_append, hpair]
  constructor
  · intro h
    have hdistinct (hpolicy : policy = .reject) :=
      List.nodup_append'.1 (List.map_append ▸ h.distinct hpolicy)
    obtain ⟨m, hm⟩ := exists_run fun hpolicy ↦ (hdistinct hpolicy).1
    obtain ⟨n, hn⟩ := exists_run fun hpolicy ↦ (hdistinct hpolicy).2.1
    rw [run_eq_ok_iff] at hm hn
    exact ⟨m, n, hm, hn, (isMerge_append_iff hm hn).2 h⟩
  · rintro ⟨m, n, hm, hn, h⟩
    exact (isMerge_append_iff hm hn).1 h

/-- The next document can be merged with the outcome of all before it. -/
theorem merge_concat (policy : Policy) (xs : List (List Interface)) (document : List Interface) :
    merge policy (xs ++ [document]) =
      (do
        let m ← merge policy xs
        merge policy [m, document]) := by
  have hmerge : merge policy (xs ++ [document]) =
      (do
        let m ← merge policy xs
        document.foldlM (add policy) m) := by
    simp only [merge, List.flatten_append, List.flatten_singleton, List.foldlM_append]
  rw [hmerge]
  cases h : merge policy xs with
  | error error => rfl
  | ok m =>
    have hm : m.foldlM (add policy) [] = .ok m := run_of_isMerge (merge_eq_ok_iff.1 h)
    have hpair : [m, document].flatten = m ++ document := by simp
    rw [ok_bind, ok_bind, merge, hpair, List.foldlM_append, hm, ok_bind]

/-- Documents may be merged in groups, whose outcomes are merged with each other. Where names may be
repeated, nothing fails in either way. A document is merged with the outcome of all before it, or
fails with them, and where one document ends and the next one begins makes no difference. -/
theorem merge_regroups (policy : Policy) (xs ys : List (List Interface))
    (document : List Interface) :
    (policy = .reject ∨
      ∃ m n merged, merge policy xs = .ok m ∧ merge policy ys = .ok n ∧
        merge policy [m, n] = .ok merged ∧ merge policy (xs ++ ys) = .ok merged) ∧
    (∀ merged, merge policy (xs ++ ys) = .ok merged ↔
      ∃ m n, merge policy xs = .ok m ∧ merge policy ys = .ok n ∧
        merge policy [m, n] = .ok merged) ∧
    (merge policy (xs ++ [document]) =
      do
        let m ← merge policy xs
        merge policy [m, document]) ∧
    merge policy xs = merge policy [xs.flatten] := by
  refine ⟨?_, fun _ ↦ merge_append_eq_ok_iff, merge_concat policy xs document, ?_⟩
  · by_cases hpolicy : policy = .reject
    · exact .inl hpolicy
    · obtain ⟨merged, h⟩ : ∃ merged, merge policy (xs ++ ys) = .ok merged :=
        exists_run fun hreject ↦ absurd hreject hpolicy
      obtain ⟨m, n, hm, hn, hmerged⟩ := merge_append_eq_ok_iff.1 h
      exact .inr ⟨m, n, merged, hm, hn, hmerged, h⟩
  · simp [merge]

end Interface

end Introspection
