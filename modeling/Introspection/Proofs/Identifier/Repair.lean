import Introspection.Proofs.Identifier.Plain

/-!
# What repair does

Repair puts an underscore before a leading digit and one after a reserved word, and names what has
no name. Nothing that it makes is empty, starts with a digit or is reserved, whatever the name is.
So within ASCII a name has an identifier exactly if its characters are plain. A name of small
letters and digits is its own identifier, unless something in it has to be repaired.
-/

namespace Introspection.Identifier

open Text

variable {c : Char} {cs ident : List Char} {name : String}

/-! ## The form of identifiers within ASCII -/

theorem isContinue_iff (h : isAscii c = true) : isContinue c = true ↔ IsPlain c := by
  rw [isContinue, if_pos h, Bool.or_eq_true, beq_iff_eq]
  rfl

theorem isStart_iff (h : isAscii c = true) : isStart c = true ↔ IsPlain c ∧ c.isDigit = false :=
  forall_isAscii (P := fun c ↦ isStart c = true ↔ IsPlain c ∧ c.isDigit = false) (by decide) c h

theorem hasForm_iff (h : ∀ c ∈ cs, isAscii c = true) :
    hasForm cs = true ↔
      cs ≠ [] ∧ (∀ c ∈ cs.head?, c.isDigit = false) ∧ ∀ c ∈ cs, IsPlain c := by
  cases cs with
  | nil => simp [hasForm]
  | cons c cs =>
    obtain ⟨hc, hcs⟩ := List.forall_mem_cons.1 h
    have hrest : cs.all isContinue = true ↔ ∀ c ∈ cs, IsPlain c := by
      rw [List.all_eq_true]
      exact forall₂_congr fun c hc ↦ isContinue_iff (hcs c hc)
    rw [hasForm, Bool.and_eq_true, isStart_iff hc, hrest, List.forall_mem_cons]
    simp only [List.head?_cons, Option.mem_some_iff, forall_eq', ne_eq, reduceCtorEq,
      not_false_eq_true, true_and]
    rw [and_comm (a := IsPlain c), and_assoc]

/-! ## Steps of a repair -/

/-- What is repaired: the name, or a word for the empty one. -/
def named (cs : List Char) : List Char :=
  if cs.isEmpty then "unnamed".toList else cs

/-- A digit cannot come first. -/
def started (cs : List Char) : List Char :=
  if (named cs).head?.any Char.isDigit then '_' :: named cs else named cs

/-- A reserved word cannot stay. -/
def repaired (cs : List Char) : List Char :=
  if isIdentifier (started cs) then started cs else started cs ++ ['_']

theorem repair?_eq_some_iff :
    repair? cs = some ident ↔ hasForm (repaired cs) = true ∧ repaired cs = ident := by
  have hrepair : repair? cs = if hasForm (repaired cs) then some (repaired cs) else none := rfl
  rw [hrepair, Option.ite_none_right_eq_some, Option.some.injEq]

theorem named_nil : named [] = "unnamed".toList := rfl

theorem named_of_ne_nil (h : cs ≠ []) : named cs = cs :=
  if_neg (by simpa using h)

theorem named_ne_nil (cs : List Char) : named cs ≠ [] := by
  cases cs <;> simp [named]

theorem exists_started_eq (cs : List Char) :
    ∃ front, (∀ c ∈ front, c = '_') ∧ started cs = front ++ named cs := by
  rw [started]
  split
  · exact ⟨['_'], List.forall_mem_singleton.2 rfl, rfl⟩
  · exact ⟨[], nofun, rfl⟩

theorem started_ne_nil (cs : List Char) : started cs ≠ [] := by
  obtain ⟨front, -, hstarted⟩ := exists_started_eq cs
  rw [hstarted]
  exact List.append_ne_nil_of_right_ne_nil front (named_ne_nil cs)

theorem isDigit_head?_started (cs : List Char) : ∀ c ∈ (started cs).head?, c.isDigit = false := by
  rw [started]
  split
  · intro c hc
    cases hc
    rfl
  · next hdigit =>
    intro c hc
    exact eq_false_of_ne_true fun h ↦ hdigit ((Option.any_eq_true _ _).2 ⟨c, hc, h⟩)

/-- Repair adds underscores only. -/
theorem exists_repaired_eq (cs : List Char) :
    ∃ front back, (∀ c ∈ front ++ back, c = '_') ∧ repaired cs = front ++ named cs ++ back := by
  obtain ⟨front, hfront, hstarted⟩ := exists_started_eq cs
  rw [repaired, hstarted]
  split
  · exact ⟨front, [], by rwa [List.append_nil], (List.append_nil _).symm⟩
  · exact ⟨front, ['_'], List.forall_mem_append.2 ⟨hfront, List.forall_mem_singleton.2 rfl⟩, rfl⟩

theorem forall_mem_repaired_iff {P : Char → Prop} (hunderscore : P '_')
    (hunnamed : ∀ c ∈ "unnamed".toList, P c) : (∀ c ∈ repaired cs, P c) ↔ ∀ c ∈ cs, P c := by
  have hnamed : (∀ c ∈ named cs, P c) ↔ ∀ c ∈ cs, P c := by
    by_cases hcs : cs = []
    · rw [hcs, named_nil]
      exact iff_of_true hunnamed (List.forall_mem_nil P)
    · rw [named_of_ne_nil hcs]
  obtain ⟨front, back, hadded, hrepaired⟩ := exists_repaired_eq cs
  obtain ⟨hfront, hback⟩ := List.forall_mem_append.1 hadded
  have hfront : ∀ c ∈ front, P c := fun c hc ↦ hfront c hc ▸ hunderscore
  have hback : ∀ c ∈ back, P c := fun c hc ↦ hback c hc ▸ hunderscore
  rw [hrepaired, List.forall_mem_append, List.forall_mem_append, hnamed, and_iff_left hback,
    and_iff_right hfront]

/-! ## What is repaired for good -/

theorem repaired_ne_nil (cs : List Char) : repaired cs ≠ [] := by
  obtain ⟨front, back, -, hrepaired⟩ := exists_repaired_eq cs
  rw [hrepaired]
  exact List.append_ne_nil_of_left_ne_nil
    (List.append_ne_nil_of_right_ne_nil front (named_ne_nil cs)) back

theorem isDigit_head?_repaired (cs : List Char) :
    ∀ c ∈ (repaired cs).head?, c.isDigit = false := by
  have hhead : (repaired cs).head? = (started cs).head? := by
    rw [repaired]
    split
    · rfl
    · rw [List.head?_append, List.head?_eq_some_head (started_ne_nil cs), Option.some_or]
  rw [hhead]
  exact isDigit_head?_started cs

/-- The lone underscore is the only reserved word that ends in one. -/
theorem isReserved_concat_underscore (h : cs ≠ []) : isReserved (cs ++ ['_']) = false := by
  have hreserved : reserved.all (fun word ↦
      word.toList == ['_'] || word.toList.getLast? != some '_') = true := by
    decide
  rw [isReserved, List.any_eq_false]
  intro word hword hcs
  have hlast := List.all_eq_true.1 hreserved word hword
  rw [beq_iff_eq.1 hcs] at hlast
  simp [h] at hlast

theorem isReserved_repaired (cs : List Char) : isReserved (repaired cs) = false := by
  rw [repaired]
  split
  · next hidentifier => simpa using (Bool.and_eq_true_iff.1 hidentifier).2
  · exact isReserved_concat_underscore (started_ne_nil cs)

/-! ## Names that can be repaired -/

theorem hasForm_repaired_iff (h : ∀ c ∈ cs, isAscii c = true) :
    hasForm (repaired cs) = true ↔ ∀ c ∈ cs, IsPlain c := by
  have hunnamed : IsPlainName "unnamed" := by decide
  have hascii : ∀ c ∈ repaired cs, isAscii c = true :=
    (forall_mem_repaired_iff (P := (isAscii · = true)) rfl hunnamed.isAsciiName).2 h
  rw [hasForm_iff hascii, forall_mem_repaired_iff (.inr rfl) hunnamed,
    and_iff_right (repaired_ne_nil cs), and_iff_right (isDigit_head?_repaired cs)]

/-- A name has no identifier exactly if it holds a character that no identifier has. -/
theorem repair?_eq_none_iff (h : ∀ c ∈ cs, isAscii c = true) :
    repair? cs = none ↔ ¬ ∀ c ∈ cs, IsPlain c := by
  rw [← hasForm_repaired_iff h, Option.eq_none_iff_forall_ne_some]
  constructor
  · exact fun hnone hform ↦ hnone _ (repair?_eq_some_iff.2 ⟨hform, rfl⟩)
  · exact fun hform ident hident ↦ hform (repair?_eq_some_iff.1 hident).1

/-- The identifier of a name that has one. -/
theorem repaired_eq_of_repair?_eq_some (h : repair? cs = some ident) : repaired cs = ident :=
  (repair?_eq_some_iff.1 h).2

theorem exists_ofMember?_eq_some (h : IsPlainName name) :
    ∃ ident, ofMember? name = some ident := by
  have hsnake : ∀ c ∈ snakeCase name, IsPlain c :=
    (forall_mem_snakeCase_iff ignoresCase_isPlain (.inr rfl) h.isAsciiName).2
      (isPlain_of_mem_parts h)
  have hform : hasForm (repaired (snakeCase name)) = true :=
    (hasForm_repaired_iff fun c hc ↦ isAscii_of_isPlain (hsnake c hc)).2 hsnake
  exact ⟨_, congrArg (Option.map String.ofList) (repair?_eq_some_iff.2 ⟨hform, rfl⟩)⟩

/-- A name of small letters and digits that starts with a letter is its own identifier, unless it is
reserved. -/
theorem ofMember?_eq_self {c : Char} {cs : List Char} (hname : name.toList = c :: cs)
    (h : ∀ a ∈ c :: cs, IsSmall a) (hdigit : c.isDigit = false)
    (hreserved : isReserved (c :: cs) = false) : ofMember? name = some name := by
  have hsnake : snakeCase name = c :: cs := by
    rw [snakeCase_eq_toList (by simp [hname]) (by rwa [hname]), hname]
  have hform : hasForm (c :: cs) = true :=
    (hasForm_iff fun a ha ↦ isAscii_of_isPlain (h a ha).isPlain).2
      ⟨List.cons_ne_nil c cs, by simpa using hdigit, fun a ha ↦ (h a ha).isPlain⟩
  have hrepair : repair? (c :: cs) = some (c :: cs) := by
    simp [repair?, hdigit, isIdentifier, hform, hreserved]
  rw [ofMember?, hsnake, hrepair, Option.map_some, ← hname, String.ofList_toList]

end Introspection.Identifier
