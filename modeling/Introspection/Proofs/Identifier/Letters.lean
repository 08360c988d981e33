import Introspection.Proofs.Identifier.Repair

/-!
# What an identifier keeps of a name

The identifier of a member has the letters and digits of the name, in their order and in small
letters. Cutting into words and parts drops other characters only, and what stands between the parts
or is added by repair are underscores. So the identifiers of two names are different unless the
names differ in letter case and in punctuation only.
-/

namespace Introspection.Identifier

open Text

/-- The letters and digits of a text, all in small letters. -/
def letters (cs : List Char) : List Char :=
  (cs.filter Char.isAlphanum).map Char.toLower

variable {name : String} {cs ident : List Char}

@[simp] theorem letters_append (cs cs' : List Char) :
    letters (cs ++ cs') = letters cs ++ letters cs' := by
  rw [letters, List.filter_append, List.map_append]
  rfl

theorem letters_of_forall_eq_underscore (h : ∀ c ∈ cs, c = '_') : letters cs = [] := by
  have hnone : cs.filter Char.isAlphanum = [] := by
    apply List.filter_eq_nil_iff.2
    intro c hc
    rw [h c hc]
    decide
  rw [letters, hnone, List.map_nil]

theorem letters_ne_nil (h : ∃ c ∈ cs, c.isAlphanum = true) : letters cs ≠ [] := by
  obtain ⟨c, hc, halnum⟩ := h
  exact List.ne_nil_of_mem (List.mem_map_of_mem (List.mem_filter.2 ⟨hc, halnum⟩))

/-! ## Letter case and separators -/

theorem letters_map_toLower (h : ∀ c ∈ cs, isAscii c = true) :
    letters (cs.map Char.toLower) = letters cs := by
  have hlower (c : Char) (hc : isAscii c = true) :
      c.toLower.isAlphanum = c.isAlphanum ∧ c.toLower.toLower = c.toLower :=
    forall_isAscii (P := fun c ↦
      c.toLower.isAlphanum = c.isAlphanum ∧ c.toLower.toLower = c.toLower) (by decide) c hc
  calc
    letters (cs.map Char.toLower) =
        (cs.filter (Char.isAlphanum ∘ Char.toLower)).map (Char.toLower ∘ Char.toLower) := by
      rw [letters, List.filter_map, List.map_map]
    _ = (cs.filter Char.isAlphanum).map (Char.toLower ∘ Char.toLower) :=
      congrArg _ (List.filter_congr fun c hc ↦ (hlower c (h c hc)).1)
    _ = letters cs :=
      List.map_congr_left fun c hc ↦ (hlower c (h c (List.mem_filter.1 hc).1)).2

theorem letters_intercalate (words : List (List Char)) :
    letters (['_'].intercalate words) = letters words.flatten := by
  have hseparator : letters ['_'] = [] := rfl
  induction words with
  | nil => rfl
  | cons word words ih =>
    cases words with
    | nil => simp
    | cons next words =>
      calc
        letters (['_'].intercalate (word :: next :: words)) =
            letters word ++ letters (next :: words).flatten := by
          rw [List.intercalate_cons_cons, letters_append, letters_append, hseparator, ih,
            List.append_nil]
        _ = letters (word :: next :: words).flatten := (letters_append ..).symm

/-! ## Words and parts -/

theorem filter_isAlphanumeric (h : ∀ c ∈ cs, isAscii c = true) :
    cs.filter isAlphanumeric = cs.filter Char.isAlphanum :=
  List.filter_congr fun c hc ↦ if_pos (h c hc)

theorem letters_words (h : ∀ c ∈ cs, isAscii c = true) :
    letters (words cs).flatten = letters cs := by
  have hwords : ∀ c ∈ (words cs).flatten, isAscii c = true := by
    intro c hc
    obtain ⟨word, hword, hc⟩ := List.mem_flatten.1 hc
    exact h c (mem_of_mem_words hword hc)
  rw [letters, ← filter_isAlphanumeric hwords, filter_flatten_words, filter_isAlphanumeric h]
  rfl

theorem letters_parts (h : IsAsciiName name) :
    letters (parts name).flatten = letters name.toList := by
  have hunderscore (c : Char) : (c.isAlphanum && decide (c ≠ '_')) = c.isAlphanum := by
    by_cases hc : c = '_'
    · subst hc
      rfl
    · simp [hc]
  calc
    letters (parts name).flatten =
        letters ((words name.toList).flatten.filter (· ≠ '_')) := by rw [flatten_parts]
    _ = letters (words name.toList).flatten := by
      rw [letters, List.filter_filter]
      simp only [hunderscore]
      rfl
    _ = letters name.toList := letters_words h

theorem letters_snakeCase (h : IsAsciiName name) :
    letters (snakeCase name) = letters name.toList := by
  have hparts : ∀ c ∈ (parts name).flatten, isAscii c = true :=
    List.forall_mem_flatten.2 fun _ ↦ isAscii_of_mem_parts h
  have hlowered : (parts name).map lowered = (parts name).map (List.map Char.toLower) :=
    List.map_congr_left fun _ hpart ↦ lowered_eq_map (isAscii_of_mem_parts h hpart)
  calc
    letters (snakeCase name) = letters ((parts name).map lowered).flatten := letters_intercalate _
    _ = letters ((parts name).flatten.map Char.toLower) := by rw [hlowered, List.map_flatten]
    _ = letters (parts name).flatten := letters_map_toLower hparts
    _ = letters name.toList := letters_parts h

/-! ## Identifiers -/

theorem letters_repaired (hne : cs ≠ []) : letters (repaired cs) = letters cs := by
  obtain ⟨front, back, hadded, hrepaired⟩ := exists_repaired_eq cs
  obtain ⟨hfront, hback⟩ := List.forall_mem_append.1 hadded
  rw [hrepaired, letters_append, letters_append, letters_of_forall_eq_underscore hfront,
    letters_of_forall_eq_underscore hback, named_of_ne_nil hne, List.nil_append, List.append_nil]

/-- The letters and digits of a name can be read off its identifier. -/
theorem letters_of_ofMember?_eq_some {ident : String} (h : IsAsciiName name)
    (hletter : ∃ c ∈ name.toList, c.isAlphanum = true) (hident : ofMember? name = some ident) :
    letters ident.toList = letters name.toList := by
  have hsnake : snakeCase name ≠ [] := by
    intro hempty
    apply letters_ne_nil hletter
    rw [← letters_snakeCase h, hempty]
    rfl
  obtain ⟨cs, hrepair, rfl⟩ := Option.map_eq_some_iff.1 hident
  rw [String.toList_ofList, ← repaired_eq_of_repair?_eq_some hrepair, letters_repaired hsnake,
    letters_snakeCase h]

/-- Names within ASCII that have the same identifier have the same letters and digits up to case, if
each has one at all. -/
theorem letters_eq_of_ofMember?_eq {name name' ident : String}
    (h : IsAsciiName name) (h' : IsAsciiName name')
    (hletter : ∃ c ∈ name.toList, c.isAlphanum = true)
    (hletter' : ∃ c ∈ name'.toList, c.isAlphanum = true)
    (hident : ofMember? name = some ident) (hident' : ofMember? name' = some ident) :
    letters name.toList = letters name'.toList := by
  calc
    letters name.toList = letters ident.toList :=
      (letters_of_ofMember?_eq_some h hletter hident).symm
    _ = letters name'.toList := letters_of_ofMember?_eq_some h' hletter' hident'

/-- Capital letters in one spelling, punctuation in the other, and a leading digit in both. -/
theorem letters_eq_of_ofMember?_eq_scan :
    ofMember? "3DScanOf" = some "_3d_scan_of" ∧ ofMember? "3D/scan__Of," = some "_3d_scan_of" ∧
      letters "3DScanOf".toList = letters "3D/scan__Of,".toList := by
  have h : ofMember? "3DScanOf" = some "_3d_scan_of" := by decide
  have h' : ofMember? "3D/scan__Of," = some "_3d_scan_of" := by decide
  exact ⟨h, h', letters_eq_of_ofMember?_eq (by decide) (by decide) ⟨'3', by decide⟩
    ⟨'3', by decide⟩ h h'⟩

end Introspection.Identifier
