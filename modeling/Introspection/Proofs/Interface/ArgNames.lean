import Introspection.Interface
import Mathlib.Data.List.Nodup
import Mathlib.Data.List.Perm.Subperm

/-!
# Names of args

The generated names are all different, so however many names are taken, enough of them are left.
Every unnamed arg gets one of its own, and the others keep their names. The names of all args on the
input side are those given and those generated, each as often as it was given or once.
-/

namespace Introspection

/-! ## Generated names -/

theorem toList_generatedName_of_lt {n : Nat} (h : n < 26) :
    (generatedName n).toList = [Char.ofNat ('a'.toNat + n)] := by
  rw [generatedName, if_pos h]
  exact String.toList_singleton _

theorem toList_generatedName_of_le {n : Nat} (h : 26 ≤ n) :
    (generatedName n).toList = 'a' :: 'r' :: 'g' :: Nat.toDigits 10 n := by
  rw [generatedName, if_neg (Nat.not_lt.2 h), String.toList_append]
  exact congrArg _ Nat.toList_repr

theorem toNat_letter {n : Nat} (h : n < 26) :
    (Char.ofNat ('a'.toNat + n)).toNat = 'a'.toNat + n := by
  revert n
  decide

theorem generatedName_ne_of_lt_of_le {n k : Nat} (hn : n < 26) (hk : 26 ≤ k) :
    generatedName n ≠ generatedName k := by
  intro h
  have hlists := congrArg String.toList h
  rw [toList_generatedName_of_lt hn, toList_generatedName_of_le hk] at hlists
  cases (List.cons.inj hlists).2

theorem generatedName_injective : Function.Injective generatedName := by
  intro n k h
  have hlists := congrArg String.toList h
  rcases Nat.lt_or_ge n 26 with hn | hn <;> rcases Nat.lt_or_ge k 26 with hk | hk
  · rw [toList_generatedName_of_lt hn, toList_generatedName_of_lt hk] at hlists
    have hcodes := congrArg Char.toNat (List.cons.inj hlists).1
    rw [toNat_letter hn, toNat_letter hk] at hcodes
    exact Nat.add_left_cancel hcodes
  · exact absurd h (generatedName_ne_of_lt_of_le hn hk)
  · exact absurd h.symm (generatedName_ne_of_lt_of_le hk hn)
  · rw [toList_generatedName_of_le hn, toList_generatedName_of_le hk] at hlists
    simp only [List.cons.injEq, true_and] at hlists
    have hvalues := congrArg (Nat.ofDigitChars 10 · 0) hlists
    simpa only [Nat.ofDigitChars_ten_toDigits] using hvalues

/-! ## Fresh names -/

variable {taken names fresh : List String} {count : Nat}

theorem nodup_freshNames (taken : List String) (count : Nat) : (freshNames taken count).Nodup :=
  ((List.nodup_range.map generatedName_injective).filter _).sublist (List.take_sublist _ _)

theorem not_mem_of_mem_freshNames {name : String} (h : name ∈ freshNames taken count) :
    name ∉ taken := by
  simpa using List.of_mem_filter (List.mem_of_mem_take h)

theorem exists_generatedName_of_mem_freshNames {name : String}
    (h : name ∈ freshNames taken count) : ∃ n, name = generatedName n := by
  obtain ⟨n, -, hn⟩ := List.mem_map.1 (List.mem_of_mem_filter (List.mem_of_mem_take h))
  exact ⟨n, hn.symm⟩

/-- No more generated names are taken than there are taken names, so enough of them are left. -/
theorem length_freshNames (taken : List String) (count : Nat) :
    (freshNames taken count).length = count := by
  let generated := (List.range (count + taken.length)).map generatedName
  have hgenerated : generated.length = count + taken.length := by simp [generated]
  have hsplit : (generated.filter taken.contains).length +
      (generated.filter (!taken.contains ·)).length = generated.length :=
    (List.length_eq_length_filter_add _).symm
  have htaken : (generated.filter taken.contains).length ≤ taken.length := by
    have hnodup : (generated.filter taken.contains).Nodup :=
      (List.nodup_range.map generatedName_injective).filter _
    refine (List.subperm_of_subset hnodup fun name hname ↦ ?_).length_le
    simpa using List.of_mem_filter hname
  rw [freshNames, List.length_take, Nat.min_eq_left]
  change count ≤ (generated.filter (!taken.contains ·)).length
  omega

/-! ## Filled names -/

/-- The names that stand for the unnamed ones among some names. -/
def filledIn (names filled : List String) : List String :=
  ((names.zip filled).filter (·.1 == unnamed)).map Prod.snd

/-- All fresh names are used, in order, if there are as many as there are unnamed ones. -/
theorem filledIn_fillNames (h : fresh.length = names.count unnamed) :
    filledIn names (fillNames names fresh) = fresh := by
  induction names generalizing fresh with
  | nil => exact (List.eq_nil_of_length_eq_zero h).symm
  | cons name names ih =>
    rw [fillNames]
    split
    · next hname =>
      cases fresh with
      | nil => simp [hname] at h
      | cons first rest =>
        have hrest : rest.length = names.count unnamed := by simpa [hname] using h
        simpa [filledIn, hname] using ih hrest
    · next hname =>
      have hfresh : fresh.length = names.count unnamed := by
        rwa [List.count_cons_of_ne hname] at h
      simpa [filledIn, hname] using ih hfresh

theorem fillNames_perm (h : fresh.length = names.count unnamed) :
    (fillNames names fresh).Perm (names.filter (· != unnamed) ++ fresh) := by
  induction names generalizing fresh with
  | nil =>
    rw [List.eq_nil_of_length_eq_zero h]
    exact .nil
  | cons name names ih =>
    rw [fillNames]
    split
    · next hname =>
      cases fresh with
      | nil => simp [hname] at h
      | cons first rest =>
        have hrest : rest.length = names.count unnamed := by simpa [hname] using h
        rw [List.filter_cons_of_neg (by simp [hname])]
        exact ((ih hrest).cons first).trans List.perm_middle.symm
    · next hname =>
      have hfresh : fresh.length = names.count unnamed := by
        rwa [List.count_cons_of_ne hname] at h
      rw [List.filter_cons_of_pos (by simpa using hname)]
      exact (ih hfresh).cons name

/-! ## Names of a member -/

namespace Member

variable {kind : MemberKind}

/-- The names that the args on the input side have, in order. -/
def givenNames (m : Member kind) : List String :=
  ((m.argsOn .input).map Arg.name).filter (· != unnamed)

/-- The names that the unnamed args on the input side get, in order. -/
def generatedNames (m : Member kind) : List String :=
  filledIn ((m.argsOn .input).map Arg.name) m.argNames

/-- As many fresh names are asked for as there are unnamed args. -/
theorem length_freshNames_eq_count (names : List String) :
    (freshNames (names.filter (· != unnamed))
      (names.length - (names.filter (· != unnamed)).length)).length = names.count unnamed := by
  have hsplit := List.length_eq_length_filter_add (fun name ↦ name != unnamed) (l := names)
  have hunnamed : (names.filter fun name ↦ !(name != unnamed)).length = names.count unnamed := by
    simp [List.count_eq_length_filter, bne]
  rw [length_freshNames, hsplit, hunnamed, Nat.add_sub_cancel_left]

/-- The generated names are the first ones that no arg has. -/
theorem generatedNames_eq (m : Member kind) :
    m.generatedNames =
      freshNames m.givenNames ((m.argsOn .input).length - m.givenNames.length) := by
  have h := filledIn_fillNames (length_freshNames_eq_count ((m.argsOn .input).map Arg.name))
  rw [List.length_map] at h
  rw [generatedNames, argNames, List.length_map]
  exact h

theorem not_mem_givenNames_of_mem {m : Member kind} {name : String} (h : name ∈ m.generatedNames) :
    name ∉ m.givenNames := by
  rw [generatedNames_eq] at h
  exact not_mem_of_mem_freshNames h

theorem nodup_generatedNames (m : Member kind) : m.generatedNames.Nodup := by
  rw [generatedNames_eq]
  exact nodup_freshNames _ _

theorem argNames_perm (m : Member kind) :
    m.argNames.Perm (m.givenNames ++ m.generatedNames) := by
  have h := fillNames_perm (length_freshNames_eq_count ((m.argsOn .input).map Arg.name))
  rw [List.length_map] at h
  rw [generatedNames_eq]
  rw [argNames, List.length_map]
  exact h

end Member

end Introspection
