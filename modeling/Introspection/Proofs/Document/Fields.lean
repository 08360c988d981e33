import Introspection.Proofs.Document.Writing
import Mathlib.Data.List.Perm.Basic

/-!
# Fields

A field is read under a name, and becomes the attribute of this name. So what is read of the
attributes of an element are those of the format, in whatever order they were given.
-/

namespace Introspection

/-! ## Attributes by their names -/

namespace Attributes

variable {attributes : Attributes} {name value : String}

/-- A name is given once at most. -/
theorem filter_eq_of_pairwise {entries : List (String × String)}
    (h : entries.Pairwise fun a b ↦ a.1 < b.1) (name : String) :
    entries.filter (·.1 == name) =
      ((entries.lookup name).map fun value ↦ (name, value)).toList := by
  induction entries with
  | nil => rfl
  | cons entry rest ih =>
    obtain ⟨n, v⟩ := entry
    obtain ⟨hlt, hrest⟩ := List.pairwise_cons.1 h
    rw [lookup_cons_eq]
    split
    · next hname =>
      subst hname
      have hnone : rest.filter (·.1 == name) = [] := by
        refine List.filter_eq_nil_iff.2 fun a ha heq ↦ ?_
        exact Std.ne_of_lt (hlt a ha) (eq_of_beq heq).symm
      rw [List.filter_cons, hnone]
      simp
    · next hname =>
      rw [List.filter_cons_of_neg (by simpa using Ne.symm hname), ih hrest]

theorem filter_entries (attributes : Attributes) (name : String) :
    attributes.entries.filter (·.1 == name) =
      ((attributes.get? name).map fun value ↦ (name, value)).toList :=
  filter_eq_of_pairwise attributes.sorted name

theorem mem_entries_iff :
    (name, value) ∈ attributes.entries ↔ attributes.get? name = some value := by
  have hfilter : (name, value) ∈ attributes.entries ↔
      (name, value) ∈ attributes.entries.filter (·.1 == name) := by
    simp
  rw [hfilter, filter_entries]
  simp

theorem eq_of_get?_eq {attributes' : Attributes}
    (h : ∀ name, attributes.get? name = attributes'.get? name) : attributes = attributes' := by
  have hmem (a : String × String) : a ∈ attributes.entries ↔ a ∈ attributes'.entries := by
    rw [← Prod.mk.eta (p := a), mem_entries_iff, mem_entries_iff, h]
  have hperm : attributes.entries.Perm attributes'.entries :=
    (List.perm_ext_iff_of_nodup (.of_map _ attributes.nodup_names)
      (.of_map _ attributes'.nodup_names)).2 hmem
  have hentries : attributes.entries = attributes'.entries :=
    List.Perm.eq_of_pairwise (fun _ _ _ _ hlt hgt ↦ absurd hgt (String.lt_asymm hlt))
      attributes.sorted attributes'.sorted hperm
  cases attributes
  cases attributes'
  cases hentries
  rfl

end Attributes

/-! ## Lists that agree -/

/-- The tags that are read are those of the format. -/
theorem isTag_iff_mem_tags {tag : String} : IsTag tag ↔ tag ∈ Child.tags := by
  simp [IsTag, Child.tags]

namespace Fields

variable {fields : Fields} {given : List (Markup.Name × String)} {name : String}

/-- The fields become the attributes of the format. -/
theorem isAttribute_iff_mem_pairs (fields : Fields) :
    IsAttribute name ↔ name ∈ fields.pairs.map Prod.fst := by
  simp [IsAttribute, pairs]

theorem nodup_pairs (fields : Fields) : (fields.pairs.map Prod.fst).Nodup := by
  simp [pairs]

/-- Every field is read under the name of the attribute that it becomes. -/
theorem ofAttributes?_eq_some_iff :
    ofAttributes? given = some fields ↔
      ∀ pair ∈ fields.pairs, field? given pair.1 = some pair.2 := by
  simp only [ofAttributes?, pairs, List.forall_mem_cons, Option.bind_eq_bind,
    Option.bind_eq_some_iff]
  constructor
  · rintro ⟨name, hname, type, htype, direction, hdirection, access, haccess, value, hvalue, h⟩
    cases h
    exact ⟨hname, htype, hdirection, haccess, hvalue, nofun⟩
  · rintro ⟨hname, htype, hdirection, haccess, hvalue, -⟩
    exact ⟨_, hname, _, htype, _, hdirection, _, haccess, _, hvalue, rfl⟩

/-! ## The attributes that fields become -/

theorem get?_set (attributes : Attributes) (pair : String × Option String) (name : String) :
    (set attributes pair).get? name =
      if name = pair.1 then pair.2.or (attributes.get? name) else attributes.get? name := by
  obtain ⟨n, _ | value⟩ := pair
  · simp [set]
  · simp [set]

theorem get?_foldl_set {pairs : List (String × Option String)} (h : (pairs.map Prod.fst).Nodup)
    (attributes : Attributes) (name : String) :
    (pairs.foldl set attributes).get? name =
      (pairs.lookup name).join.or (attributes.get? name) := by
  induction pairs generalizing attributes with
  | nil => rfl
  | cons pair pairs ih =>
    obtain ⟨n, value⟩ := pair
    obtain ⟨hn, hpairs⟩ := List.nodup_cons.1 h
    rw [List.foldl_cons, ih hpairs, get?_set]
    by_cases hname : name = n
    · subst hname
      have hlookup : pairs.lookup name = none := by
        refine List.lookup_eq_none_iff.2 fun other hother ↦ ?_
        have hne : name ≠ other.1 := by
          rintro rfl
          exact hn (List.mem_map.2 ⟨other, hother, rfl⟩)
        simpa using hne
      simp [hlookup]
    · simp [List.lookup_cons, beq_eq_false_iff_ne.2 hname, hname]

theorem get?_attributes (fields : Fields) (name : String) :
    fields.attributes.get? name = (fields.pairs.lookup name).join := by
  rw [attributes, get?_foldl_set fields.nodup_pairs]
  exact Option.or_none

/-! ## Fields of represented attributes -/

variable {attributes : Attributes}

theorem field?_of_represents (h : Element.RepresentsAttributes given attributes)
    (hname : IsAttribute name) : field? given name = some (attributes.get? name) := by
  obtain ⟨others, hperm, hothers⟩ := h
  have hdrop : others.filter (·.1 == name) = [] := by
    refine List.filter_eq_nil_iff.2 fun a ha heq ↦ hothers a ha ?_
    rwa [eq_of_beq heq]
  have hkept : ((given.filter (·.1.base == name)).map fun a ↦ (a.1.base, a.2)).Perm
      ((attributes.get? name).map fun value ↦ (name, value)).toList := by
    have hfilter := hperm.filter (·.1 == name)
    rwa [List.filter_append, hdrop, List.append_nil, List.filter_map,
      Attributes.filter_entries] at hfilter
  unfold field?
  cases hget : attributes.get? name with
  | none =>
    rw [hget] at hkept
    rw [List.map_eq_nil_iff.1 hkept.eq_nil]
  | some value =>
    rw [hget] at hkept
    obtain ⟨a, ha, heq⟩ := List.map_eq_singleton_iff.1 (List.perm_singleton.1 hkept)
    rw [ha]
    simp [← (Prod.mk.inj heq).2]

/-- The attributes of the format are read, whatever the others are. -/
theorem exists_ofAttributes?_of_represents (h : Element.RepresentsAttributes given attributes)
    (hknown : ∀ a ∈ attributes.entries, IsAttribute a.1) :
    ∃ fields, ofAttributes? given = some fields ∧ fields.attributes = attributes := by
  let fields : Fields := ⟨attributes.get? "name", attributes.get? "type",
    attributes.get? "direction", attributes.get? "access", attributes.get? "value"⟩
  have hpairs : ∀ pair ∈ fields.pairs, pair.2 = attributes.get? pair.1 := by
    simp [fields, pairs]
  refine ⟨fields, ofAttributes?_eq_some_iff.2 fun pair hpair ↦ ?_,
    Attributes.eq_of_get?_eq fun name ↦ ?_⟩
  · have hname : IsAttribute pair.1 :=
      (isAttribute_iff_mem_pairs fields).2 (List.mem_map_of_mem hpair)
    rw [field?_of_represents h hname, hpairs pair hpair]
  · rw [get?_attributes]
    cases hlookup : fields.pairs.lookup name with
    | none =>
      have hname : ¬ IsAttribute name := by
        rw [isAttribute_iff_mem_pairs fields, List.mem_map]
        rintro ⟨pair, hpair, rfl⟩
        exact absurd (List.lookup_eq_none_iff.1 hlookup pair hpair) (by simp)
      cases hget : attributes.get? name with
      | none => rfl
      | some value => exact absurd (hknown _ (Attributes.mem_entries_iff.2 hget)) hname
    | some field =>
      obtain ⟨before, after, hsplit, -⟩ := List.lookup_eq_some_iff.1 hlookup
      exact hpairs (name, field) (hsplit ▸ List.mem_append_right _ List.mem_cons_self)

end Fields

end Introspection
