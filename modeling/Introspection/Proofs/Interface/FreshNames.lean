import Introspection.Proofs.Interface.ArgNames
import Mathlib.Data.Nat.Nth

/-!
# Fresh names

The names for unnamed args come from a sequence that goes on for ever: the generated names without
those that some arg has. The unnamed args take them in order, so each one gets the name whose
number in the sequence is the number of unnamed args before it.
-/

namespace Introspection

/-! ## The sequence of fresh names -/

theorem infinite_setOf_generatedName_not_mem (taken : List String) :
    {n | generatedName n ∉ taken}.Infinite := by
  have hfinite : {n | generatedName n ∈ taken}.Finite :=
    taken.finite_toSet.preimage generatedName_injective.injOn
  exact hfinite.infinite_compl

/-- A name of the sequence of generated names from which the taken ones are left out. -/
noncomputable def freshName (taken : List String) (k : Nat) : String :=
  generatedName (Nat.nth (fun n ↦ generatedName n ∉ taken) k)

theorem freshName_not_mem (taken : List String) (k : Nat) : freshName taken k ∉ taken :=
  Nat.nth_mem_of_infinite (infinite_setOf_generatedName_not_mem taken) k

theorem filter_range_eq_map_nth (p : Nat → Prop) [DecidablePred p] (n : Nat) :
    (List.range n).filter p = (List.range (Nat.count p n)).map (Nat.nth p) := by
  induction n with
  | zero => simp
  | succ n ih =>
    rw [List.range_succ, List.filter_append, ih, Nat.count_succ]
    by_cases h : p n
    · simp [h, List.range_succ, Nat.nth_count h]
    · simp [h]

/-- The names that are handed out are the beginning of the sequence. -/
theorem freshNames_eq_map (taken : List String) (count : Nat) :
    freshNames taken count = (List.range count).map (freshName taken) := by
  let IsFree (n : Nat) : Prop := generatedName n ∉ taken
  have hfilter : ((List.range (count + taken.length)).map generatedName).filter
      (!taken.contains ·) =
        (List.range (Nat.count IsFree (count + taken.length))).map (freshName taken) := by
    have hfree : ((!taken.contains ·) ∘ generatedName) = fun n ↦ decide (IsFree n) := by
      funext n
      simp [IsFree]
    rw [List.filter_map, hfree, filter_range_eq_map_nth, List.map_map]
    rfl
  have hcount : count ≤ Nat.count IsFree (count + taken.length) := by
    have hlength := length_freshNames taken count
    rw [freshNames, hfilter] at hlength
    simp at hlength
    exact hlength
  rw [freshNames, hfilter, ← List.map_take, List.take_range, Nat.min_eq_left hcount]

/-! ## Filled names -/

theorem fillNames_append (names names' fresh : List String) :
    fillNames (names ++ names') fresh =
      fillNames names fresh ++ fillNames names' (fresh.drop (names.count unnamed)) := by
  induction names generalizing fresh with
  | nil => rfl
  | cons name names ih =>
    rw [List.cons_append, fillNames, fillNames]
    split
    · next hname => simp [hname, ih]
    · next hname => simp [hname, ih]

theorem length_fillNames (names fresh : List String) :
    (fillNames names fresh).length = names.length := by
  induction names generalizing fresh with
  | nil => rfl
  | cons name names ih =>
    rw [fillNames]
    split <;> simp [ih]

theorem getElem?_fillNames (before after fresh : List String) (name : String) :
    (fillNames (before ++ name :: after) fresh)[before.length]? =
      some (if name = unnamed then fresh[before.count unnamed]?.getD "" else name) := by
  rw [fillNames_append, List.getElem?_append_right (length_fillNames ..).le, length_fillNames,
    Nat.sub_self, fillNames]
  split
  · simp
  · simp

/-! ## Names of a member -/

namespace Member

variable {kind : MemberKind} {m : Member kind} {before after : List Arg} {arg : Arg}

/-- There are as many fresh names as unnamed args. -/
theorem argNames_eq_fillNames (m : Member kind) :
    m.argNames = fillNames ((m.argsOn .input).map Arg.name)
      ((List.range (((m.argsOn .input).map Arg.name).count unnamed)).map
        (freshName m.givenNames)) := by
  have hcount := length_freshNames_eq_count ((m.argsOn .input).map Arg.name)
  rw [length_freshNames] at hcount
  rw [argNames, freshNames_eq_map, hcount]
  rfl

theorem length_argNames (m : Member kind) : m.argNames.length = (m.argsOn .input).length := by
  rw [argNames_eq_fillNames, length_fillNames, List.length_map]

/-- The name of an arg is known from the unnamed args before it. -/
theorem getElem?_argNames (h : m.argsOn .input = before ++ arg :: after) :
    m.argNames[before.length]? =
      some (if arg.name = unnamed then
          freshName m.givenNames (before.countP (·.name == unnamed))
        else arg.name) := by
  have hnames : (m.argsOn .input).map Arg.name =
      before.map Arg.name ++ arg.name :: after.map Arg.name := by
    rw [h, List.map_append, List.map_cons]
  have hbefore : (before.map Arg.name).count unnamed = before.countP (·.name == unnamed) := by
    rw [List.count, List.countP_map]
    rfl
  have hfilled := getElem?_fillNames (before.map Arg.name) (after.map Arg.name)
    ((List.range (((m.argsOn .input).map Arg.name).count unnamed)).map (freshName m.givenNames))
    arg.name
  rw [List.length_map, ← hnames, ← argNames_eq_fillNames, hbefore] at hfilled
  rw [hfilled]
  split
  · next hname =>
    have hlt : before.countP (·.name == unnamed) <
        ((m.argsOn .input).map Arg.name).count unnamed := by
      rw [hnames, List.count_append, hbefore, List.count_cons, hname]
      simp
    simp [List.getElem?_range hlt]
  · rfl

/-- A fresh name that some arg gets is the name of no other arg. -/
theorem count_argNames_eq_one {k : Nat} (h : freshName m.givenNames k ∈ m.argNames) :
    m.argNames.count (freshName m.givenNames k) = 1 := by
  have hgiven : freshName m.givenNames k ∉ m.givenNames := freshName_not_mem _ k
  have hmem : freshName m.givenNames k ∈ m.generatedNames :=
    (List.mem_append.1 ((argNames_perm m).mem_iff.1 h)).resolve_left hgiven
  rw [(argNames_perm m).count_eq, List.count_append, List.count_eq_zero.2 hgiven,
    List.count_eq_one_of_mem m.nodup_generatedNames hmem]

theorem nodup_argNames (h : m.givenNames.Nodup) : m.argNames.Nodup := by
  rw [(argNames_perm m).nodup_iff, List.nodup_append']
  exact ⟨h, m.nodup_generatedNames, fun _ hname hgenerated ↦
    not_mem_givenNames_of_mem hgenerated hname⟩

end Member

/-- Every arg on the input side has one name. An arg that is named keeps its name, and an unnamed
one gets the next of the names `a`, `b` and so on that no arg has, which is then the name of no
other arg. So all names are different if those given are. -/
theorem unnamed_args_get_fresh_names {kind : MemberKind} (m : Member kind) :
    m.argNames.length = (m.argsOn .input).length ∧
      (∀ before arg after, m.argsOn .input = before ++ arg :: after →
        (arg.name ≠ unnamed → m.argNames[before.length]? = some arg.name) ∧
        (arg.name = unnamed →
          ∃ name, m.argNames[before.length]? = some name ∧
            name = generatedName (Nat.nth (fun n ↦ generatedName n ∉ m.givenNames)
              (before.countP (·.name == unnamed))) ∧
            name ∉ m.givenNames ∧ m.argNames.count name = 1)) ∧
      {n | generatedName n ∉ m.givenNames}.Infinite ∧
      (m.givenNames.Nodup → m.argNames.Nodup) := by
  refine ⟨m.length_argNames, ?_, infinite_setOf_generatedName_not_mem _, Member.nodup_argNames⟩
  intro before arg after hargs
  have hname := Member.getElem?_argNames hargs
  constructor
  · intro hne
    rw [hname, if_neg hne]
  · intro heq
    rw [if_pos heq] at hname
    exact ⟨_, hname, rfl, freshName_not_mem _ _,
      Member.count_argNames_eq_one (List.mem_of_getElem? hname)⟩

end Introspection
