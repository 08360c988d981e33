import Mathlib.Data.Bool.AllAny
import Introspection.Proofs.Identifier.Plain

/-!
# Punctuation inside words

Within ASCII only letters, digits and underscores stay together, but for punctuation that stands
between two letters or between two digits and takes both. A word holds such a bridge together with
the characters around it, and every other word is plain.
-/

namespace Introspection.Text

/-- Punctuation that joins the letters or the digits on either side of it. -/
def IsBridge (left middle right : Char) : Prop :=
  (left.isAlpha = true ∧ middle ∈ ['.', ':', '\''] ∧ right.isAlpha = true) ∨
    (left.isDigit = true ∧ middle ∈ ['.', ',', ';', '\''] ∧ right.isDigit = true)

/-- A bridge stands somewhere in the text. -/
def HasBridge (cs : List Char) : Prop :=
  ∃ left middle right, IsBridge left middle right ∧ [left, middle, right] <:+: cs

variable {a b c left middle right : Char} {cs : List Char}

theorem IsBridge.not_isPlain (h : IsBridge left middle right) : ¬ IsPlain middle := by
  have hmarks : ∀ c ∈ ['.', ':', '\''] ++ ['.', ',', ';', '\''], ¬ IsPlain c :=
    List.all_iff_forall_prop.1 (by decide)
  rcases h with ⟨-, hmiddle, -⟩ | ⟨-, hmiddle, -⟩
  · exact hmarks middle (List.mem_append_left _ hmiddle)
  · exact hmarks middle (List.mem_append_right _ hmiddle)

theorem IsBridge.isAlphanumeric_left (h : IsBridge left middle right)
    (hleft : isAscii left = true) : isAlphanumeric left = true := by
  have hranges : (left.isAlpha || left.isDigit) = true := by
    rcases h with ⟨h, -⟩ | ⟨h, -⟩ <;> simp [h]
  rw [isAlphanumeric, if_pos hleft]
  exact hranges

theorem HasBridge.cons (h : HasBridge cs) (c : Char) : HasBridge (c :: cs) := by
  obtain ⟨left, middle, right, hbridge, hcs⟩ := h
  exact ⟨left, middle, right, hbridge, hcs.trans (List.suffix_cons c cs).isInfix⟩

theorem hasBridge_cons_cons_cons (h : IsBridge left middle right) (cs : List Char) :
    HasBridge (left :: middle :: right :: cs) :=
  ⟨left, middle, right, h, [], cs, rfl⟩

/-- A bridge is none of the plain characters, so a plain text has none. -/
theorem not_hasBridge_of_isPlain (h : ∀ c ∈ cs, IsPlain c) : ¬ HasBridge cs := by
  intro hcs
  obtain ⟨left, middle, right, hbridge, hin⟩ := hcs
  exact hbridge.not_isPlain (h middle (hin.subset (by simp)))

/-! ## Classes within ASCII -/

theorem isLetter_of (h : isAscii c = true) : (BreakClass.of c).isLetter = c.isAlpha :=
  forall_isAscii (P := fun c ↦ (BreakClass.of c).isLetter = c.isAlpha) (by decide) c h

theorem of_eq_numeric (h : isAscii c = true) : (BreakClass.of c == .numeric) = c.isDigit :=
  forall_isAscii (P := fun c ↦ (BreakClass.of c == .numeric) = c.isDigit) (by decide) c h

theorem isMidLetter_of (h : isAscii c = true) :
    (BreakClass.of c).isMidLetter = decide (c ∈ ['.', ':', '\'']) :=
  forall_isAscii (P := fun c ↦ (BreakClass.of c).isMidLetter = decide (c ∈ ['.', ':', '\'']))
    (by decide) c h

theorem isMidNumber_of (h : isAscii c = true) :
    (BreakClass.of c).isMidNumber = decide (c ∈ ['.', ',', ';', '\'']) :=
  forall_isAscii (P := fun c ↦ (BreakClass.of c).isMidNumber = decide (c ∈ ['.', ',', ';', '\'']))
    (by decide) c h

theorem isPlain_iff_of (h : isAscii c = true) : IsPlain c ↔ (BreakClass.of c).IsPlain :=
  forall_isAscii (P := fun c ↦ IsPlain c ↔
      (BreakClass.of c = .letter ∨ BreakClass.of c = .numeric ∨ BreakClass.of c = .connector))
    (by decide) c h

/-- Two scripts have classes of their own, which do not come up. -/
theorem of_not_mem_scripts (h : isAscii c = true) :
    BreakClass.of c ∉ [BreakClass.hebrew, BreakClass.katakana] :=
  forall_isAscii (P := fun c ↦ BreakClass.of c ∉ [BreakClass.hebrew, BreakClass.katakana])
    (by decide) c h

theorem bridges_of_iff (hleft : isAscii left = true) (hmiddle : isAscii middle = true)
    (hright : isAscii right = true) :
    BreakClass.bridges (.of left) (.of middle) (.of right) = true ↔
      IsBridge left middle right := by
  have hhebrew : (BreakClass.of left == .hebrew) = false := by
    have h := of_not_mem_scripts hleft
    simp only [List.mem_cons, not_or] at h
    simpa using h.1
  simp [BreakClass.bridges, isLetter_of hleft, isLetter_of hright, of_eq_numeric hleft,
    of_eq_numeric hright, isMidLetter_of hmiddle, isMidNumber_of hmiddle, hhebrew, IsBridge,
    and_assoc]

@[simp] theorem BreakClass.bridges_other_left (x y : BreakClass) : bridges other x y = false := by
  cases x <;> cases y <;> rfl

@[simp] theorem BreakClass.bridges_other_right (x y : BreakClass) : bridges x y other = false := by
  cases x <;> cases y <;> rfl

theorem BreakClass.isPlain_iff {x : BreakClass} (hx : x ≠ hebrew) :
    x.IsPlain ↔ x.isCore = true ∨ x = connector := by
  cases x <;> simp_all [IsPlain, isCore, isLetter]

/-- Whatever is not joined by a bridge is joined because it is plain. -/
theorem BreakClass.joins_iff {x y : BreakClass} (hx : x ∉ [hebrew, katakana])
    (hy : y ∉ [hebrew, katakana]) (before after : BreakClass) :
    joins before x y after = true ↔
      x.IsPlain ∧ y.IsPlain ∨ bridges x y after = true ∨ bridges before x y = true := by
  simp only [List.mem_cons, List.not_mem_nil, or_false, not_or] at hx hy
  obtain ⟨hhebrew, hkatakana⟩ := hx
  have hplain : x.IsPlain ∧ y.IsPlain ↔
      x.isCore = true ∧ y.isCore = true ∨ x = connector ∧ y = connector ∨
        x.isCore = true ∧ y = connector ∨ x = connector ∧ y.isCore = true := by
    rw [isPlain_iff hhebrew, isPlain_iff hy.1]
    grind
  simp [hplain, joins, isConnected, hhebrew, hkatakana, hy.2, or_assoc]

/-! ## Segments within ASCII -/

/-- What a cut looks at behind two characters is the class of the next one, if there is one. -/
theorem bridges_eq_false {rest : List Char} (h : ∀ c ∈ a :: b :: rest, isAscii c = true)
    (hbridge : ¬ HasBridge (a :: b :: rest)) :
    BreakClass.bridges (.of a) (.of b)
      (((rest.map fun c ↦ (⟨.of c, [c]⟩ : Cluster)).head?.map Cluster.kind).getD .other) =
        false := by
  cases rest with
  | nil => exact BreakClass.bridges_other_right _ _
  | cons c rest =>
    simp only [List.forall_mem_cons] at h
    apply eq_false_of_ne_true
    intro hbridges
    exact hbridge (hasBridge_cons_cons_cons ((bridges_of_iff h.1 h.2.1 h.2.2.1).1 hbridges) rest)

/-- Without bridges, a segment of several characters is plain. The segment that was begun is plain
and is only gone on with if the next character is plain too. -/
theorem isPlain_or_eq_singleton {before : BreakClass} {current segment : List Char}
    (hcs : ∀ c ∈ cs, isAscii c = true) (hbridge : ¬ HasBridge cs)
    (hbefore : ∀ a b rest, cs = a :: b :: rest → BreakClass.bridges before (.of a) (.of b) = false)
    (hcurrent : ∀ c ∈ current, IsPlain c) (hnext : current ≠ [] → ∀ c ∈ cs.head?, IsPlain c)
    (h : segment ∈ segmentsFrom before current (cs.map fun c ↦ ⟨.of c, [c]⟩)) :
    (∀ c ∈ segment, IsPlain c) ∨ ∃ c, segment = [c] := by
  induction cs generalizing before current with
  | nil => cases h
  | cons a cs ih =>
    have hended : (∀ c ∈ current ++ [a], IsPlain c) ∨ ∃ c, current ++ [a] = [c] := by
      cases current with
      | nil => exact .inr ⟨a, rfl⟩
      | cons c current =>
        have ha : IsPlain a := hnext (List.cons_ne_nil _ _) a rfl
        exact .inl (List.forall_mem_append.2 ⟨hcurrent, List.forall_mem_singleton.2 ha⟩)
    obtain ⟨ha, htail⟩ := List.forall_mem_cons.1 hcs
    have hrest : ¬ HasBridge cs := fun h ↦ hbridge (h.cons a)
    have hbehind (b c : Char) (rest : List Char) (hbc : cs = b :: c :: rest) :
        BreakClass.bridges (.of a) (.of b) (.of c) = false := by
      subst hbc
      exact bridges_eq_false hcs hbridge
    cases cs with
    | nil =>
      rw [List.eq_of_mem_singleton h]
      exact hended
    | cons b rest =>
      have hb : isAscii b = true := htail b List.mem_cons_self
      rw [List.map_cons, List.map_cons, segmentsFrom] at h
      simp only at h
      split at h
      · next hjoins =>
        rw [BreakClass.joins_iff (of_not_mem_scripts ha) (of_not_mem_scripts hb)] at hjoins
        rcases hjoins with ⟨hplain, hplain'⟩ | hjoins | hjoins
        · have hcurrent : ∀ c ∈ current ++ [a], IsPlain c :=
            List.forall_mem_append.2
              ⟨hcurrent, List.forall_mem_singleton.2 ((isPlain_iff_of ha).2 hplain)⟩
          refine ih htail hrest hbehind hcurrent (fun _ c hc ↦ ?_) h
          cases hc
          exact (isPlain_iff_of hb).2 hplain'
        · cases (bridges_eq_false hcs hbridge).symm.trans hjoins
        · cases (hbefore a b rest rfl).symm.trans hjoins
      · rcases List.mem_cons.1 h with rfl | h
        · exact hended
        · exact ih htail hrest hbehind (List.forall_mem_nil _) (absurd rfl) h

/-- The current segment goes on with the next cluster at least. -/
theorem exists_append_mem_segmentsFrom (before : BreakClass) (current : List Char) (x : Cluster)
    (clusters : List Cluster) :
    ∃ more, current ++ x.chars ++ more ∈ segmentsFrom before current (x :: clusters) := by
  induction clusters generalizing before current x with
  | nil => exact ⟨[], by simp [segmentsFrom]⟩
  | cons y clusters ih =>
    rw [segmentsFrom]
    split
    · obtain ⟨more, hmore⟩ := ih x.kind (current ++ x.chars) y
      exact ⟨y.chars ++ more, by rwa [← List.append_assoc]⟩
    · exact ⟨[], by simp⟩

/-- What is cut from the clusters behind one is cut from all of them, with some beginning. -/
theorem exists_segmentsFrom_subset (before : BreakClass) (current : List Char) (x y : Cluster)
    (clusters : List Cluster) :
    ∃ current', segmentsFrom x.kind current' (y :: clusters) ⊆
      segmentsFrom before current (x :: y :: clusters) := by
  rw [segmentsFrom]
  split
  · exact ⟨_, List.Subset.refl _⟩
  · exact ⟨[], List.subset_cons_self _ _⟩

/-- A bridge stands in one segment with the character before it. -/
theorem exists_mem_segmentsFrom_of_isBridge (hbridge : IsBridge left middle right)
    (hleft : isAscii left = true) (hmiddle : isAscii middle = true) (hright : isAscii right = true)
    (before : BreakClass) (current front back : List Char) :
    ∃ segment ∈ segmentsFrom before current
        ((front ++ left :: middle :: right :: back).map fun c ↦ ⟨.of c, [c]⟩),
      left ∈ segment ∧ middle ∈ segment := by
  induction front generalizing before current with
  | nil =>
    have hjoins : before.joins (.of left) (.of middle) (.of right) = true := by
      rw [BreakClass.joins_iff (of_not_mem_scripts hleft) (of_not_mem_scripts hmiddle),
        bridges_of_iff hleft hmiddle hright]
      exact .inr (.inl hbridge)
    obtain ⟨more, hmore⟩ := exists_append_mem_segmentsFrom (.of left) (current ++ [left])
      ⟨.of middle, [middle]⟩ ((right :: back).map fun c ↦ ⟨.of c, [c]⟩)
    refine ⟨current ++ [left] ++ [middle] ++ more, ?_, by simp, by simp⟩
    rw [List.nil_append, List.map_cons, List.map_cons, List.map_cons, segmentsFrom]
    simp only [List.head?_cons, Option.map_some, Option.getD_some, hjoins, if_true]
    exact hmore
  | cons c front ih =>
    obtain ⟨d, rest, hrest⟩ := List.exists_cons_of_ne_nil
      (List.append_ne_nil_of_right_ne_nil front (List.cons_ne_nil left (middle :: right :: back)))
    obtain ⟨current', hsubset⟩ := exists_segmentsFrom_subset before current ⟨.of c, [c]⟩
      ⟨.of d, [d]⟩ (rest.map fun c ↦ ⟨.of c, [c]⟩)
    obtain ⟨segment, hsegment, hmem⟩ := ih (.of c) current'
    rw [hrest] at hsegment
    rw [List.cons_append, hrest]
    exact ⟨segment, hsubset hsegment, hmem⟩

/-! ## Words within ASCII -/

theorem isPlain_of_isAlphanumeric (h : isAscii c = true) (hc : isAlphanumeric c = true) :
    IsPlain c := by
  rw [isAlphanumeric, if_pos h] at hc
  exact .inl hc

/-- The words of a text are plain exactly if nothing bridges two of its characters. -/
theorem forall_isPlain_words_iff (h : ∀ c ∈ cs, isAscii c = true) :
    (∀ word ∈ words cs, ∀ c ∈ word, IsPlain c) ↔ ¬ HasBridge cs := by
  constructor
  · intro hplain hcs
    obtain ⟨left, middle, right, hbridge, front, back, hfront⟩ := hcs
    have hcs : cs = front ++ left :: middle :: right :: back := by simp [← hfront]
    have hleft : isAscii left = true := h left (by simp [hcs])
    have hmiddle : isAscii middle = true := h middle (by simp [hcs])
    have hright : isAscii right = true := h right (by simp [hcs])
    obtain ⟨segment, hsegment, hmemleft, hmem⟩ :=
      exists_mem_segmentsFrom_of_isBridge hbridge hleft hmiddle hright .other [] front back
    rw [← hcs, ← clusters_eq_map h] at hsegment
    have hany : segment.any isAlphanumeric = true :=
      List.any_eq_true.2 ⟨left, hmemleft, hbridge.isAlphanumeric_left hleft⟩
    exact hbridge.not_isPlain (hplain segment (List.mem_filter.2 ⟨hsegment, hany⟩) middle hmem)
  · intro hbridge word hword
    obtain ⟨hsegment, hany⟩ := List.mem_filter.1 hword
    obtain ⟨c, hc, halnum⟩ := List.any_eq_true.1 hany
    rw [segments, clusters_eq_map h] at hsegment
    rcases isPlain_or_eq_singleton h hbridge (fun _ _ _ _ ↦ BreakClass.bridges_other_left _ _)
      (List.forall_mem_nil _) (absurd rfl) hsegment with hplain | ⟨a, rfl⟩
    · exact hplain
    · -- The only character of the word is the one that makes it a word.
      rw [List.eq_of_mem_singleton hc] at halnum
      have ha : isAscii a = true := h a (mem_of_mem_words hword (List.mem_singleton_self a))
      exact List.forall_mem_singleton.2 (isPlain_of_isAlphanumeric ha halnum)

end Introspection.Text
