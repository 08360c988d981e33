import Introspection.Proofs.Identifier.Parts

/-!
# Plain names

A plain name consists of letters, digits and underscores of ASCII. Nothing in it breaks it into
segments, and its words are plain as well. Without capital letters and underscores it is a single
part. Within ASCII, putting a name in its final case changes the case of letters and nothing else.
-/

namespace Introspection

/-! ## Plain characters -/

namespace Text

/-- The letters and digits of ASCII, and the underscore. -/
def IsPlain (c : Char) : Prop :=
  c.isAlphanum = true ∨ c = '_'

instance : DecidablePred IsPlain :=
  fun _ ↦ inferInstanceAs (Decidable (_ ∨ _))

/-- Names of plain characters. -/
def IsPlainName (name : String) : Prop :=
  ∀ c ∈ name.toList, IsPlain c

instance : DecidablePred IsPlainName :=
  fun name ↦ List.decidableBAll IsPlain name.toList

/-- Names within ASCII. -/
def IsAsciiName (name : String) : Prop :=
  ∀ c ∈ name.toList, isAscii c = true

instance : DecidablePred IsAsciiName :=
  fun name ↦ List.decidableBAll (isAscii · = true) name.toList

/-- The small letters and the digits of ASCII. -/
def IsSmall (c : Char) : Prop :=
  c.isLower = true ∨ c.isDigit = true

instance : DecidablePred IsSmall :=
  fun _ ↦ inferInstanceAs (Decidable (_ ∨ _))

variable {c : Char} {cs : List Char}

theorem isAscii_of_isPlain (h : IsPlain c) : isAscii c = true := by
  rcases h with h | rfl
  · delta Char.isAlphanum Char.isAlpha Char.isUpper Char.isLower Char.isDigit at h
    simp only [Bool.or_eq_true, Bool.and_eq_true, decide_eq_true_eq, ge_iff_le,
      UInt32.le_iff_toNat_le] at h
    have hZ : 'Z'.val.toNat = 90 := rfl
    have hz : 'z'.val.toNat = 122 := rfl
    have h9 : '9'.val.toNat = 57 := rfl
    have hc : c.toNat = c.val.toNat := rfl
    rw [isAscii, decide_eq_true_eq]
    omega
  · rfl

/-- What holds of the first 128 characters holds of all of ASCII. -/
theorem forall_isAscii {P : Char → Prop} (h : ∀ n < 128, P (Char.ofNat n)) (c : Char)
    (hc : isAscii c = true) : P c := by
  rw [isAscii, decide_eq_true_eq] at hc
  rw [← Char.ofNat_toNat c]
  exact h c.toNat hc

theorem IsSmall.isPlain (h : IsSmall c) : IsPlain c := by
  have hranges : (c.isUpper || c.isLower || c.isDigit) = true := by
    rcases h with h | h <;> simp [h]
  exact .inl hranges

theorem IsPlainName.isAsciiName {name : String} (h : IsPlainName name) : IsAsciiName name :=
  fun c hc ↦ isAscii_of_isPlain (h c hc)

/-- A property of characters that does not look at the case of letters. -/
def IgnoresCase (P : Char → Prop) : Prop :=
  ∀ c, isAscii c = true → (P c.toLower ↔ P c) ∧ (P c.toUpper ↔ P c)

theorem ignoresCase_isPlain : IgnoresCase IsPlain :=
  forall_isAscii (P := fun c ↦ (IsPlain c.toLower ↔ IsPlain c) ∧ (IsPlain c.toUpper ↔ IsPlain c))
    (by decide)

theorem ignoresCase_isAscii : IgnoresCase (isAscii · = true) :=
  forall_isAscii (P := fun c ↦ (isAscii c.toLower = true ↔ isAscii c = true) ∧
      (isAscii c.toUpper = true ↔ isAscii c = true))
    (by decide)

theorem IsSmall.toLower_eq (h : IsSmall c) : c.toLower = c :=
  forall_isAscii (P := fun c ↦ IsSmall c → c.toLower = c) (by decide) c
    (isAscii_of_isPlain h.isPlain) h

theorem IsSmall.isAlphanumeric (h : IsSmall c) : isAlphanumeric c = true :=
  forall_isAscii (P := fun c ↦ IsSmall c → Text.isAlphanumeric c = true) (by decide) c
    (isAscii_of_isPlain h.isPlain) h

theorem IsSmall.isUpper_eq_false (h : IsSmall c) : isUpper c = false :=
  forall_isAscii (P := fun c ↦ IsSmall c → isUpper c = false) (by decide) c
    (isAscii_of_isPlain h.isPlain) h

/-! ## Segments of plain names -/

/-- The classes of plain characters. -/
def BreakClass.IsPlain (b : BreakClass) : Prop :=
  b = letter ∨ b = numeric ∨ b = connector

theorem IsPlain.of (h : IsPlain c) : (BreakClass.of c).IsPlain :=
  forall_isAscii (P := fun c ↦ Text.IsPlain c →
      BreakClass.of c = .letter ∨ BreakClass.of c = .numeric ∨ BreakClass.of c = .connector)
    (by decide) c (isAscii_of_isPlain h) h

theorem BreakClass.IsPlain.joins {a b : BreakClass} (ha : a.IsPlain) (hb : b.IsPlain)
    (before after : BreakClass) : joins before a b after = true := by
  rcases ha with rfl | rfl | rfl <;> rcases hb with rfl | rfl | rfl <;> rfl

/-- What follows joins its first marks to the character before it, and nothing else. -/
theorem cons_of_ne_mark (c : Char) {clusters : List Cluster}
    (h : ∀ cluster ∈ clusters, cluster.kind ≠ .mark) :
    Cluster.cons c clusters = ⟨BreakClass.of c, [c]⟩ :: clusters := by
  unfold Cluster.cons
  split
  · next hc => rw [hc]
  · next marks _ _ => exact absurd rfl (h ⟨.mark, marks⟩ List.mem_cons_self)
  · rfl

theorem of_ne_mark (h : isAscii c = true) : BreakClass.of c ≠ .mark :=
  forall_isAscii (P := fun c ↦ BreakClass.of c ≠ .mark) (by decide) c h

theorem clusters_eq_map (h : ∀ c ∈ cs, isAscii c = true) :
    clusters cs = cs.map fun c ↦ ⟨BreakClass.of c, [c]⟩ := by
  induction cs with
  | nil => rfl
  | cons c cs ih =>
    have hcs : ∀ c ∈ cs, isAscii c = true := fun c hc ↦ h c (List.mem_cons_of_mem _ hc)
    have hcons : clusters (c :: cs) = Cluster.cons c (clusters cs) := rfl
    rw [hcons, ih hcs, List.map_cons]
    exact cons_of_ne_mark c (List.forall_mem_map.2 fun a ha ↦ of_ne_mark (hcs a ha))

theorem segmentsFrom_eq (before : BreakClass) (segment : List Char) (hne : cs ≠ [])
    (h : ∀ c ∈ cs, IsPlain c) :
    segmentsFrom before segment (cs.map fun c ↦ ⟨BreakClass.of c, [c]⟩) = [segment ++ cs] := by
  induction cs generalizing before segment with
  | nil => exact absurd rfl hne
  | cons a cs ih =>
    cases cs with
    | nil => rfl
    | cons b cs =>
      have ha : (BreakClass.of a).IsPlain := (h a List.mem_cons_self).of
      have hb : (BreakClass.of b).IsPlain :=
        (h b (List.mem_cons_of_mem _ List.mem_cons_self)).of
      have hrest := ih (BreakClass.of a) (segment ++ [a]) (List.cons_ne_nil _ _)
        fun c hc ↦ h c (List.mem_cons_of_mem _ hc)
      rw [List.map_cons, List.map_cons, segmentsFrom]
      simp only [ha.joins hb, if_true]
      rw [List.map_cons] at hrest
      rw [hrest, List.append_assoc]
      rfl

/-- A plain name is one word, unless it holds underscores only. -/
theorem words_eq (h : ∀ c ∈ cs, IsPlain c) :
    words cs = if cs.any isAlphanumeric then [cs] else [] := by
  cases cs with
  | nil => rfl
  | cons c cs =>
    rw [words, segments, clusters_eq_map fun c hc ↦ isAscii_of_isPlain (h c hc),
      segmentsFrom_eq _ _ (List.cons_ne_nil _ _) h, List.nil_append, List.filter_cons,
      List.filter_nil]

end Text

namespace Identifier

open Text

/-! ## Parts of plain names -/

variable {c : Char} {cs : List Char}

/-- A word of small letters and digits is not cut. -/
theorem partsFrom_eq (state : CaseState) (current : List Char) (hne : cs ≠ [])
    (h : ∀ c ∈ cs, IsSmall c) : partsFrom state current cs = [current.reverse ++ cs] := by
  induction cs generalizing state current with
  | nil => exact absurd rfl hne
  | cons a cs ih =>
    have ha : IsSmall a := h a List.mem_cons_self
    have hunderscore (c : Char) (hc : IsSmall c) : c ≠ '_' := by
      rintro rfl
      revert hc
      decide
    cases cs with
    | nil => rw [partsFrom, if_neg (hunderscore a ha), List.reverse_cons]
    | cons b cs =>
      have hb : IsSmall b := h b (List.mem_cons_of_mem _ List.mem_cons_self)
      have hrest := ih (state.next a) (a :: current) (List.cons_ne_nil _ _)
        fun c hc ↦ h c (List.mem_cons_of_mem _ hc)
      rw [partsFrom, if_neg (hunderscore a ha)]
      simp [hunderscore b hb, hb.isUpper_eq_false, ha.isUpper_eq_false, hrest]

theorem lowered_eq_map (h : ∀ c ∈ cs, isAscii c = true) : lowered cs = cs.map Char.toLower := by
  induction cs with
  | nil => rfl
  | cons c cs ih =>
    have hascii : isAscii c = true := h c List.mem_cons_self
    have hsigma : c ≠ 'Σ' := by
      intro hc
      rw [hc] at hascii
      cases hascii
    rw [lowered, toLower, if_pos hascii, ih fun c hc ↦ h c (List.mem_cons_of_mem _ hc)]
    · rfl
    · exact fun hc ↦ absurd hc hsigma

/-! ## Characters of a name in its final case -/

variable {name : String}

theorem forall_mem_intercalate_iff {P : Char → Prop} {separator : List Char}
    {words : List (List Char)} (h : ∀ c ∈ separator, P c) :
    (∀ c ∈ separator.intercalate words, P c) ↔ ∀ word ∈ words, ∀ c ∈ word, P c := by
  induction words with
  | nil => simp
  | cons word words ih =>
    cases words with
    | nil => rw [List.intercalate_singleton, List.forall_mem_singleton]
    | cons next words =>
      rw [List.intercalate_cons_cons, List.forall_mem_append, List.forall_mem_append, ih,
        List.forall_mem_cons (l := next :: words), and_iff_left h]

theorem forall_mem_lowered_iff {P : Char → Prop} (hP : IgnoresCase P)
    (h : ∀ c ∈ cs, isAscii c = true) : (∀ c ∈ lowered cs, P c) ↔ ∀ c ∈ cs, P c := by
  rw [lowered_eq_map h, List.forall_mem_map]
  exact forall₂_congr fun c hc ↦ (hP c (h c hc)).1

theorem capitalised_cons (h : isAscii c = true) (cs : List Char) :
    capitalised (c :: cs) = c.toUpper :: lowered cs := by
  rw [capitalised, toUpper, if_pos h]
  rfl

theorem forall_mem_capitalised_iff {P : Char → Prop} (hP : IgnoresCase P)
    (h : ∀ c ∈ cs, isAscii c = true) : (∀ c ∈ capitalised cs, P c) ↔ ∀ c ∈ cs, P c := by
  cases cs with
  | nil => rfl
  | cons c cs =>
    obtain ⟨hc, hcs⟩ := List.forall_mem_cons.1 h
    rw [capitalised_cons hc, List.forall_mem_cons, List.forall_mem_cons, (hP c hc).2,
      forall_mem_lowered_iff hP hcs]

theorem isAscii_of_mem_parts (h : IsAsciiName name) {part : List Char} (hpart : part ∈ parts name) :
    ∀ c ∈ part, isAscii c = true :=
  fun c hc ↦ h c (mem_of_mem_parts hpart hc)

/-- Apart from underscores, the characters of a name in small letters are those of its parts. -/
theorem forall_mem_snakeCase_iff {P : Char → Prop} (hP : IgnoresCase P) (hunderscore : P '_')
    (h : IsAsciiName name) :
    (∀ c ∈ snakeCase name, P c) ↔ ∀ part ∈ parts name, ∀ c ∈ part, P c := by
  rw [snakeCase, forall_mem_intercalate_iff (List.forall_mem_singleton.2 hunderscore),
    List.forall_mem_map]
  exact forall₂_congr fun part hpart ↦ forall_mem_lowered_iff hP (isAscii_of_mem_parts h hpart)

/-- The characters of a name in capitalised words are those of its parts. -/
theorem forall_mem_camelCase_iff {P : Char → Prop} (hP : IgnoresCase P) (h : IsAsciiName name) :
    (∀ c ∈ camelCase name, P c) ↔ ∀ part ∈ parts name, ∀ c ∈ part, P c := by
  rw [camelCase, List.forall_mem_flatMap]
  exact forall₂_congr fun part hpart ↦ forall_mem_capitalised_iff hP (isAscii_of_mem_parts h hpart)

theorem isPlain_of_mem_parts (h : IsPlainName name) :
    ∀ part ∈ parts name, ∀ c ∈ part, IsPlain c :=
  fun _ hpart c hc ↦ h c (mem_of_mem_parts hpart hc)

theorem snakeCase_eq_toList (hne : name.toList ≠ []) (h : ∀ c ∈ name.toList, IsSmall c) :
    snakeCase name = name.toList := by
  have hplain : IsPlainName name := fun c hc ↦ (h c hc).isPlain
  have hany : name.toList.any isAlphanumeric = true := by
    obtain ⟨c, hc⟩ := List.exists_mem_of_ne_nil _ hne
    exact List.any_eq_true.2 ⟨c, hc, (h c hc).isAlphanumeric⟩
  have hlowered : name.toList.map Char.toLower = name.toList :=
    (List.map_congr_left fun c hc ↦ (h c hc).toLower_eq).trans (List.map_id' _)
  rw [snakeCase, parts, words_eq hplain, if_pos hany, List.flatMap_singleton,
    partsFrom_eq _ _ hne h, List.map_singleton, List.intercalate_singleton, List.reverse_nil,
    List.nil_append, lowered_eq_map hplain.isAsciiName, hlowered]

end Identifier

end Introspection
