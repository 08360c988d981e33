import Introspection.Proofs.Identifier.Repair
import Introspection.Proofs.Interface.ArgNames
import Introspection.Proofs.Interface.Parts

/-!
# Parameters of stubs

The parameters of a stub are the identifiers of its arg names. Generated names are told apart from
the given ones as names, and each of them is its own identifier. So parameters clash exactly if a
given name that is written otherwise has the same identifier as a generated one.
-/

namespace Introspection

open Text

variable {kind : MemberKind} {m : Member kind}

/-! ## Generated identifiers -/

/-- No reserved word begins like a numbered name. -/
theorem isReserved_numbered (digits : List Char) :
    Identifier.isReserved ('a' :: 'r' :: 'g' :: digits) = false := by
  have hreserved :
      Identifier.reserved.all (fun word ↦ word.toList.take 3 != ['a', 'r', 'g']) = true := by
    decide
  rw [Identifier.isReserved, List.any_eq_false]
  intro word hword h
  have hprefix := List.all_eq_true.1 hreserved word hword
  rw [beq_iff_eq.1 h] at hprefix
  cases hprefix

theorem ofMember?_generatedName (n : Nat) :
    Identifier.ofMember? (generatedName n) = some (generatedName n) := by
  rcases Nat.lt_or_ge n 26 with hn | hn
  · have hletter : ∀ n < 26, IsSmall (Char.ofNat ('a'.toNat + n)) ∧
        (Char.ofNat ('a'.toNat + n)).isDigit = false ∧
        Identifier.isReserved [Char.ofNat ('a'.toNat + n)] = false := by
      decide
    obtain ⟨hsmall, hdigit, hreserved⟩ := hletter n hn
    exact Identifier.ofMember?_eq_self (toList_generatedName_of_lt hn)
      (List.forall_mem_singleton.2 hsmall) hdigit hreserved
  · have hsmall : ∀ c ∈ 'a' :: 'r' :: 'g' :: Nat.toDigits 10 n, IsSmall c := by
      simp only [List.forall_mem_cons]
      exact ⟨by decide, by decide, by decide, fun c hc ↦
        .inr (Nat.isDigit_of_mem_toDigits (by decide) (by decide) hc)⟩
    exact Identifier.ofMember?_eq_self (toList_generatedName_of_le hn) hsmall rfl
      (isReserved_numbered _)

namespace Member

theorem exists_generatedName_of_mem {name : String} (h : name ∈ m.generatedNames) :
    ∃ n, name = generatedName n := by
  rw [generatedNames_eq] at h
  exact exists_generatedName_of_mem_freshNames h

theorem ofMember?_of_mem_generatedNames {name : String} (h : name ∈ m.generatedNames) :
    Identifier.ofMember? name = some name := by
  obtain ⟨n, rfl⟩ := exists_generatedName_of_mem h
  exact ofMember?_generatedName n

theorem map_ofMember?_generatedNames (m : Member kind) :
    m.generatedNames.map Identifier.ofMember? = m.generatedNames.map some :=
  List.map_congr_left fun _ hname ↦ ofMember?_of_mem_generatedNames hname

/-- Where the given names have identifiers of their own, only a given and a generated name can
clash. -/
theorem nodup_map_argNames_iff (hgiven : (m.givenNames.map Identifier.ofMember?).Nodup) :
    (m.argNames.map Identifier.ofMember?).Nodup ↔
      ∀ name ∈ m.givenNames, ∀ generated ∈ m.generatedNames,
        Identifier.ofMember? name ≠ some generated := by
  have hgenerated : (m.generatedNames.map some).Nodup :=
    m.nodup_generatedNames.map fun _ _ ↦ Option.some.inj
  rw [((argNames_perm m).map _).nodup_iff, List.map_append, map_ofMember?_generatedNames,
    List.nodup_append]
  constructor
  · rintro ⟨-, -, hdisjoint⟩ name hname generated hmem
    exact hdisjoint _ (List.mem_map_of_mem hname) _ (List.mem_map_of_mem hmem)
  · intro h
    refine ⟨hgiven, hgenerated, ?_⟩
    intro ident hident ident' hident'
    obtain ⟨name, hname, rfl⟩ := List.mem_map.1 hident
    obtain ⟨generated, hmem, rfl⟩ := List.mem_map.1 hident'
    exact h name hname generated hmem

end Member

/-! ## Parameters -/

/-- If the given names are plain and have different identifiers, every arg name has an identifier,
and generated names are their own. Then all identifiers are different exactly if no given name has
that of a generated one, and certainly if no given name is another spelling of a name that may be
generated. -/
theorem parameters_distinct_iff
    (hplain : ∀ name ∈ m.givenNames, IsPlainName name)
    (hgiven : (m.givenNames.map Identifier.ofMember?).Nodup) :
    (∀ name ∈ m.argNames, ∃ ident, Identifier.ofMember? name = some ident) ∧
      (∀ name ∈ m.generatedNames, Identifier.ofMember? name = some name) ∧
      ((m.argNames.map Identifier.ofMember?).Nodup ↔
        ∀ name ∈ m.givenNames, ∀ generated ∈ m.generatedNames,
          Identifier.ofMember? name ≠ some generated) ∧
      ((∀ name ∈ m.givenNames, ∀ n,
          Identifier.ofMember? name = some (generatedName n) → name = generatedName n) →
        (m.argNames.map Identifier.ofMember?).Nodup) := by
  have hiff := Member.nodup_map_argNames_iff hgiven
  refine ⟨?_, fun _ hname ↦ Member.ofMember?_of_mem_generatedNames hname, hiff, ?_⟩
  · intro name hname
    rcases List.mem_append.1 ((Member.argNames_perm m).mem_iff.1 hname) with hname | hname
    · exact Identifier.exists_ofMember?_eq_some (hplain name hname)
    · exact ⟨name, Member.ofMember?_of_mem_generatedNames hname⟩
  · intro hspelling
    refine hiff.2 fun name hname generated hgenerated hident ↦ ?_
    obtain ⟨n, rfl⟩ := Member.exists_generatedName_of_mem hgenerated
    obtain rfl := hspelling name hname n hident
    exact Member.not_mem_givenNames_of_mem hgenerated hname

section Plot

/-- A method with a given name and an unnamed arg on either side of another one. -/
def moveMethod : Method where
  name := "Move"
  owner := "org.example.Plot"
  annotations := []
  args :=
    [⟨unnamed, "org.example.Plot", [], "d", .input, .double⟩,
      ⟨"B", "org.example.Plot", [], "d", .input, .double⟩,
      ⟨"MaxSpeed", "org.example.Plot", [], "d", .input, .double⟩]
  defaults := [.double .zero, .double .zero, .double .zero]

/-- The capital letter does no harm, as its small form is not generated. -/
theorem parameters_distinct_iff_move :
    (∀ name ∈ moveMethod.givenNames, IsPlainName name) ∧
      (moveMethod.givenNames.map Identifier.ofMember?).Nodup ∧
      moveMethod.argNames = ["a", "B", "MaxSpeed"] ∧
      (moveMethod.argNames.map Identifier.ofMember?).Nodup := by
  have hplain : ∀ name ∈ moveMethod.givenNames, IsPlainName name := by decide
  have hgiven : (moveMethod.givenNames.map Identifier.ofMember?).Nodup := by decide
  have hclash : ∀ name ∈ moveMethod.givenNames, ∀ generated ∈ moveMethod.generatedNames,
      Identifier.ofMember? name ≠ some generated := by decide
  obtain ⟨-, -, hiff, -⟩ := parameters_distinct_iff hplain hgiven
  exact ⟨hplain, hgiven, by decide, hiff.2 hclash⟩

def plotDocument : Element :=
  ⟨"node", .empty,
    [⟨"interface", .ofList [("name", "org.example.Plot")],
      [⟨"method", .ofList [("name", "Draw")],
        [⟨"arg", .ofList [("name", "A"), ("type", "d")], []⟩,
          ⟨"arg", .ofList [("type", "d")], []⟩]⟩]⟩]⟩

def drawMethod : Method where
  name := "Draw"
  owner := "org.example.Plot"
  annotations := []
  args :=
    [⟨"A", "org.example.Plot", [], "d", .input, .double⟩,
      ⟨unnamed, "org.example.Plot", [], "d", .input, .double⟩]
  defaults := [.double .zero, .double .zero]

/-- The unnamed arg is named like the other one but for the case, and so has the same identifier. -/
theorem draw_parameters_clash :
    Interface.ofRoot .native plotDocument =
        .ok [⟨"org.example.Plot", "org.example.Plot", [], [], [drawMethod], [], []⟩] ∧
      (∀ name ∈ drawMethod.givenNames, IsPlainName name) ∧
      (drawMethod.givenNames.map Identifier.ofMember?).Nodup ∧
      drawMethod.argNames = ["A", "a"] ∧
      drawMethod.argNames.map Identifier.ofMember? = [some "a", some "a"] ∧
      ¬ (drawMethod.argNames.map Identifier.ofMember?).Nodup := by
  exact ⟨rfl, by decide, by decide, by decide, by decide, by decide⟩

end Plot

end Introspection
