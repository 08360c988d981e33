import Mathlib.Data.List.Forall2

/-!
# Computations that may fail

What is known once a chain of computations has succeeded, or has stopped at its first failure.
-/

namespace Introspection

variable {ε ε' α β γ : Type}

@[simp] theorem ok_bind (a : α) (f : α → Except ε β) : (Except.ok a >>= f) = f a := rfl

@[simp] theorem error_bind (e : ε) (f : α → Except ε β) :
    (Except.error e >>= f) = Except.error e := rfl

theorem bind_eq_ok_iff {x : Except ε α} {f : α → Except ε β} {b : β} :
    (x >>= f) = .ok b ↔ ∃ a, x = .ok a ∧ f a = .ok b := by
  cases x <;> simp

theorem return_eq_ok_iff {a b : α} : (return a : Except ε α) = .ok b ↔ b = a :=
  ⟨fun h ↦ (Except.ok.inj h).symm, fun h ↦ h ▸ rfl⟩

theorem bind_eq_error_iff {x : Except ε α} {f : α → Except ε β} {e : ε} :
    (x >>= f) = .error e ↔ x = .error e ∨ ∃ a, x = .ok a ∧ f a = .error e := by
  cases x <;> simp

theorem eq_of_bind_return_eq {x y : Except ε α} {f : α → β} (hf : Function.Injective f)
    (h : (do let a ← x; return f a) = do let a ← y; return f a) : x = y := by
  cases x with
  | error e =>
    cases y with
    | error e' => exact congrArg Except.error (Except.error.inj h)
    | ok a' => cases h
  | ok a =>
    cases y with
    | error e' => cases h
    | ok a' => exact congrArg Except.ok (hf (Except.ok.inj h))

theorem mapError_eq_ok_iff {x : Except ε α} {f : ε → ε'} {a : α} :
    x.mapError f = .ok a ↔ x = .ok a := by
  cases x <;> simp [Except.mapError]

theorem mapError_eq_error_iff {x : Except ε α} {f : ε → ε'} {e : ε'} :
    x.mapError f = .error e ↔ ∃ e', x = .error e' ∧ f e' = e := by
  cases x <;> simp [Except.mapError]

theorem map_eq_of_forall₂ {f : α → β} {as : List α} {bs : List β}
    (h : List.Forall₂ (fun a b ↦ f a = b) as bs) : as.map f = bs := by
  rw [← List.forall₂_eq_eq_eq, List.forall₂_map_left_iff]
  exact h

theorem map_eq_self {f : α → α} {as : List α} (h : ∀ a ∈ as, f a = a) : as.map f = as :=
  (List.map_congr_left h).trans (List.map_id as)

theorem eq_of_map_eq_map {f : α → β} {as as' : List α} (h : as.map f = as'.map f)
    (hf : ∀ a ∈ as, ∀ a' ∈ as', f a = f a' → a = a') : as = as' := by
  induction as generalizing as' with
  | nil => exact (List.map_eq_nil_iff.1 h.symm).symm
  | cons a as ih =>
    cases as' with
    | nil => cases h
    | cons a' as' =>
      obtain ⟨hhead, htail⟩ := List.cons.inj h
      obtain rfl : a = a' := hf a List.mem_cons_self a' List.mem_cons_self hhead
      rw [ih htail fun b hb b' hb' ↦
        hf b (List.mem_cons_of_mem _ hb) b' (List.mem_cons_of_mem _ hb')]

theorem mapM_eq_ok_iff {f : α → Except ε β} {as : List α} {bs : List β} :
    as.mapM f = .ok bs ↔ List.Forall₂ (fun a b ↦ f a = .ok b) as bs := by
  induction as generalizing bs with
  | nil =>
    simp only [List.mapM_nil, List.forall₂_nil_left_iff]
    exact ⟨fun h ↦ (Except.ok.inj h).symm, fun h ↦ h ▸ rfl⟩
  | cons a as ih =>
    simp only [List.mapM_cons, bind_eq_ok_iff, List.forall₂_cons_left_iff]
    constructor
    · rintro ⟨b, hb, bs, hbs, h⟩
      exact ⟨b, bs, hb, ih.1 hbs, (Except.ok.inj h).symm⟩
    · rintro ⟨b, bs, hb, hbs, rfl⟩
      exact ⟨b, hb, bs, ih.2 hbs, rfl⟩

theorem exists_of_mem_right {R : α → β → Prop} {as : List α} {bs : List β}
    (h : List.Forall₂ R as bs) {b : β} (hb : b ∈ bs) : ∃ a ∈ as, R a b := by
  induction h with
  | nil => cases hb
  | @cons a b' as bs hab _ ih =>
    rcases List.mem_cons.1 hb with rfl | hb
    · exact ⟨a, List.mem_cons_self, hab⟩
    · obtain ⟨a', ha', h⟩ := ih hb
      exact ⟨a', List.mem_cons_of_mem a ha', h⟩

theorem exists_of_mapM_eq_ok {f : α → Except ε β} {as : List α} {bs : List β}
    (h : as.mapM f = .ok bs) {b : β} (hb : b ∈ bs) : ∃ a ∈ as, f a = .ok b :=
  exists_of_mem_right (mapM_eq_ok_iff.1 h) hb

theorem mapM_eq_ok_map {f : α → Except ε β} {g : α → β} {as : List α}
    (h : ∀ a ∈ as, f a = .ok (g a)) : as.mapM f = .ok (as.map g) :=
  mapM_eq_ok_iff.2 (List.forall₂_map_right_iff.2 (List.forall₂_same.2 h))

theorem exists_mapM_eq_ok_of_forall₂ {f : β → Except ε γ} {P : α → γ → Prop} {as : List α}
    {bs : List β} (h : List.Forall₂ (fun a b ↦ ∃ c, f b = .ok c ∧ P a c) as bs) :
    ∃ cs, bs.mapM f = .ok cs ∧ List.Forall₂ P as cs := by
  induction h with
  | nil => exact ⟨[], rfl, .nil⟩
  | cons hab _ ih =>
    obtain ⟨c, hc, hac⟩ := hab
    obtain ⟨cs, hcs, hascs⟩ := ih
    refine ⟨c :: cs, ?_, .cons hac hascs⟩
    rw [List.mapM_cons, hc, ok_bind, hcs]
    rfl

theorem exists_mapM_eq_ok {f : α → Except ε β} {as : List α} (h : ∀ a ∈ as, ∃ b, f a = .ok b) :
    ∃ bs, as.mapM f = .ok bs := by
  have htrue : List.Forall₂ (fun _ a ↦ ∃ b, f a = .ok b ∧ True) as as :=
    List.forall₂_same.2 fun a ha ↦ (h a ha).imp fun _ hb ↦ ⟨hb, trivial⟩
  obtain ⟨bs, hbs, -⟩ := exists_mapM_eq_ok_of_forall₂ htrue
  exact ⟨bs, hbs⟩

/-- Where one computation finds the image of what another one finds, item by item, it finds the
images of all items. -/
theorem mapM_eq_ok_map_of_mapM_eq_ok {f : α → Except ε β} {g : α → Except ε γ} {k : β → γ}
    {as : List α} {bs : List β} (h : as.mapM f = .ok bs)
    (hg : ∀ a ∈ as, ∀ b, f a = .ok b → g a = .ok (k b)) : as.mapM g = .ok (bs.map k) := by
  rw [mapM_eq_ok_iff] at h ⊢
  rw [List.forall₂_map_right_iff]
  induction h with
  | nil => exact .nil
  | @cons a b as bs hab _ ih =>
    exact .cons (hg a List.mem_cons_self b hab) (ih fun a ha ↦ hg a (List.mem_cons_of_mem _ ha))

/-- Items that belong to each other in pairs, and fare alike, fare alike as lists. -/
theorem mapM_eq_mapM {R : α → β → Prop} {f : α → Except ε γ} {g : β → Except ε γ} {as : List α}
    {bs : List β} (h : List.Forall₂ R as bs) (hfg : ∀ a ∈ as, ∀ b, R a b → f a = g b) :
    as.mapM f = bs.mapM g := by
  induction h with
  | nil => rfl
  | @cons a b as bs hab _ ih =>
    rw [List.mapM_cons, List.mapM_cons, hfg a List.mem_cons_self b hab,
      ih fun a ha ↦ hfg a (List.mem_cons_of_mem _ ha)]

/-- Lists with the same results agree in whatever the result of an item determines. -/
theorem map_eq_of_mapM_eq_ok {f : α → Except ε β} {g : α → γ} {as as' : List α} {bs : List β}
    (h : as.mapM f = .ok bs) (h' : as'.mapM f = .ok bs)
    (hg : ∀ a ∈ as, ∀ a' ∈ as', ∀ b, f a = .ok b → f a' = .ok b → g a = g a') :
    as.map g = as'.map g := by
  rw [mapM_eq_ok_iff] at h h'
  induction h generalizing as' with
  | nil =>
    cases h'
    rfl
  | @cons a b as bs ha _ ih =>
    cases h' with
    | @cons a' _ as' _ ha' has' =>
      rw [List.map_cons, List.map_cons, hg a List.mem_cons_self a' List.mem_cons_self b ha ha',
        ih has' fun a ha a' ha' ↦ hg a (List.mem_cons_of_mem _ ha) a' (List.mem_cons_of_mem _ ha')]

/-- What is listed for each item can be listed for each result. -/
theorem flatMap_eq_of_mapM_eq_ok {f : α → Except ε β} {g : α → List γ} {k : β → List γ}
    {as : List α} {bs : List β} (h : as.mapM f = .ok bs)
    (hg : ∀ a ∈ as, ∀ b, f a = .ok b → g a = k b) : as.flatMap g = bs.flatMap k := by
  rw [mapM_eq_ok_iff] at h
  induction h with
  | nil => rfl
  | @cons a b as bs hab _ ih =>
    rw [List.flatMap_cons, List.flatMap_cons, hg a List.mem_cons_self b hab,
      ih fun a ha ↦ hg a (List.mem_cons_of_mem _ ha)]

/-- Items that can fail in one way only let the whole list fail in this way. -/
theorem mapM_eq_error {f : α → Except ε β} {as : List α} {e : ε}
    (h : ∀ a ∈ as, f a = .error e ∨ ∃ b, f a = .ok b) (hbad : ∃ a ∈ as, f a = .error e) :
    as.mapM f = .error e := by
  induction as with
  | nil =>
    obtain ⟨a, ha, -⟩ := hbad
    cases ha
  | cons a as ih =>
    rw [List.mapM_cons]
    rcases h a List.mem_cons_self with ha | ⟨b, hb⟩
    · rw [ha, error_bind]
    · have hrest : ∃ a ∈ as, f a = .error e := by
        obtain ⟨a', ha', he⟩ := hbad
        rcases List.mem_cons.1 ha' with rfl | ha'
        · cases hb.symm.trans he
        · exact ⟨a', ha', he⟩
      rw [hb, ok_bind, ih (fun a ha ↦ h a (List.mem_cons_of_mem _ ha)) hrest, error_bind]

/-- A run that fails does so at its first bad item. -/
theorem exists_of_foldlM_eq_error {f : β → α → Except ε β} {b : β} {as : List α} {e : ε}
    (h : as.foldlM f b = .error e) :
    ∃ before a after c, as = before ++ a :: after ∧ before.foldlM f b = .ok c ∧
      f c a = .error e := by
  induction as generalizing b with
  | nil => cases h
  | cons a as ih =>
    rw [List.foldlM_cons, bind_eq_error_iff] at h
    rcases h with h | ⟨c, hc, h⟩
    · exact ⟨[], a, as, b, rfl, rfl, h⟩
    · obtain ⟨before, a', after, d, rfl, hd, he⟩ := ih h
      exact ⟨a :: before, a', after, d, rfl, by rw [List.foldlM_cons, hc]; exact hd, he⟩

/-! ## Faults -/

/-- The computation fails exactly if there is a fault, and then it fails with the first one. -/
def Reports (x : Except ε α) (faults : List ε) : Prop :=
  ∀ e, x = .error e ↔ faults.head? = some e

namespace Reports

variable {x : Except ε α} {faults faults' : List ε}

theorem ok (a : α) : Reports (.ok a : Except ε α) [] := by
  simp [Reports]

theorem error (e : ε) (faults : List ε) : Reports (.error e : Except ε α) (e :: faults) := by
  simp [Reports]

theorem eq_nil {a : α} (h : Reports x faults) (hx : x = .ok a) : faults = [] := by
  cases faults with
  | nil => rfl
  | cons e _ => cases hx.symm.trans ((h e).2 rfl)

theorem exists_ok_iff (h : Reports x faults) : (∃ a, x = .ok a) ↔ faults = [] := by
  constructor
  · rintro ⟨a, ha⟩
    exact h.eq_nil ha
  · rintro rfl
    cases x with
    | ok a => exact ⟨a, rfl⟩
    | error e => cases (h e).1 rfl

/-- What comes later is reached only if nothing has failed before it. -/
theorem bind {f : α → Except ε β} (hx : Reports x faults)
    (hf : ∀ a, x = .ok a → Reports (f a) faults') : Reports (x >>= f) (faults ++ faults') := by
  intro e
  cases x with
  | error e' =>
    have hhead : faults.head? = some e' := (hx e').1 rfl
    rw [List.head?_append, hhead]
    simp
  | ok a =>
    rw [hx.eq_nil rfl]
    exact hf a rfl e

theorem bind_return (h : Reports x faults) (f : α → β) :
    Reports (do let a ← x; return f a) faults := by
  rw [← List.append_nil faults]
  exact h.bind fun a _ ↦ .ok (f a)

theorem of_bind_return {f : α → β} (h : Reports (do let a ← x; return f a) faults) :
    Reports x faults := by
  intro e
  rw [← h e]
  cases x with
  | ok a =>
    rw [ok_bind]
    constructor <;> intro hfails <;> cases hfails
  | error e' => rw [error_bind, Except.error.injEq, Except.error.injEq]

theorem mapError (h : Reports x faults) (f : ε → ε') : Reports (x.mapError f) (faults.map f) := by
  intro e
  rw [mapError_eq_error_iff, List.head?_map, Option.map_eq_some_iff]
  exact exists_congr fun e' ↦ and_congr_left' (h e')

theorem mapM {f : α → Except ε β} {faults : α → List ε} {as : List α}
    (h : ∀ a ∈ as, Reports (f a) (faults a)) : Reports (as.mapM f) (as.flatMap faults) := by
  induction as with
  | nil => exact .ok []
  | cons a as ih =>
    rw [List.mapM_cons, List.flatMap_cons]
    refine (h a List.mem_cons_self).bind fun b _ ↦ ?_
    exact (ih fun a ha ↦ h a (List.mem_cons_of_mem _ ha)).bind_return (b :: ·)

end Reports

end Introspection
