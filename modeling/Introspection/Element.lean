/-!
# Elements

A document is a tree of elements. The attributes of an element are kept in the order of their
names, so two elements are equal iff they agree in tag, attributes and children.
-/

namespace Introspection

/-! ## Attributes -/

/-- The value of every attribute, in ascending order of the names. -/
structure Attributes where
  entries : List (String × String)
  sorted : entries.Pairwise fun a b ↦ a.1 < b.1

namespace Attributes

def empty : Attributes :=
  ⟨[], .nil⟩

def insertEntry (name value : String) : List (String × String) → List (String × String)
  | [] => [(name, value)]
  | (n, v) :: rest =>
    if name < n then (name, value) :: (n, v) :: rest
    else if name = n then (name, value) :: rest
    else (n, v) :: insertEntry name value rest

theorem mem_insertEntry {name value : String} {entries : List (String × String)}
    {a : String × String} (h : a ∈ insertEntry name value entries) :
    a = (name, value) ∨ a ∈ entries := by
  induction entries with
  | nil => simpa [insertEntry] using h
  | cons b rest ih =>
    unfold insertEntry at h
    split at h
    · simpa using h
    · split at h
      · rcases List.mem_cons.1 h with h | h
        · exact .inl h
        · exact .inr (List.mem_cons_of_mem _ h)
      · rcases List.mem_cons.1 h with h | h
        · exact .inr (h ▸ List.mem_cons_self)
        · exact (ih h).imp_right (List.mem_cons_of_mem _)

theorem sorted_insertEntry (name value : String) {entries : List (String × String)}
    (h : entries.Pairwise fun a b ↦ a.1 < b.1) :
    (insertEntry name value entries).Pairwise fun a b ↦ a.1 < b.1 := by
  induction entries with
  | nil => exact List.pairwise_singleton _ _
  | cons b rest ih =>
    obtain ⟨hb, hrest⟩ := List.pairwise_cons.1 h
    unfold insertEntry
    split
    · rename_i hlt
      refine List.pairwise_cons.2 ⟨fun a ha ↦ ?_, h⟩
      rcases List.mem_cons.1 ha with rfl | ha
      · exact hlt
      · exact String.lt_trans hlt (hb a ha)
    · rename_i hlt
      split
      · rename_i heq
        subst heq
        exact List.pairwise_cons.2 ⟨hb, hrest⟩
      · rename_i hne
        refine List.pairwise_cons.2 ⟨fun a ha ↦ ?_, ih hrest⟩
        rcases mem_insertEntry ha with rfl | ha
        · have hle : b.1 ≤ name := String.not_lt.1 hlt
          exact Std.lt_of_le_of_ne hle (Ne.symm hne)
        · exact hb a ha

/-- Sets an attribute, in place of its former value if there is one. -/
def insert (attributes : Attributes) (name value : String) : Attributes :=
  ⟨insertEntry name value attributes.entries, sorted_insertEntry name value attributes.sorted⟩

def get? (attributes : Attributes) (name : String) : Option String :=
  attributes.entries.lookup name

theorem lookup_cons_eq (name value key : String) (entries : List (String × String)) :
    ((name, value) :: entries).lookup key =
      if key = name then some value else entries.lookup key := by
  by_cases h : key = name
  · simp [h]
  · simp [List.lookup_cons, beq_eq_false_iff_ne.2 h, h]

theorem lookup_insertEntry (name value key : String) (entries : List (String × String)) :
    (insertEntry name value entries).lookup key =
      if key = name then some value else entries.lookup key := by
  induction entries with
  | nil => exact lookup_cons_eq ..
  | cons entry rest ih =>
    obtain ⟨n, v⟩ := entry
    unfold insertEntry
    split
    · exact lookup_cons_eq ..
    · split
      · rename_i h
        subst h
        rw [lookup_cons_eq, lookup_cons_eq]
        split <;> rfl
      · rename_i h
        rw [lookup_cons_eq, lookup_cons_eq, ih]
        by_cases hkey : key = name
        · rw [if_neg (hkey ▸ h), if_pos hkey, if_pos hkey]
        · rw [if_neg hkey, if_neg hkey]

@[simp] theorem get?_insert (attributes : Attributes) (name value key : String) :
    (attributes.insert name value).get? key =
      if key = name then some value else attributes.get? key :=
  lookup_insertEntry ..

def ofList (entries : List (String × String)) : Attributes :=
  entries.foldl (fun attributes entry ↦ attributes.insert entry.1 entry.2) empty

end Attributes

/-! ## Elements -/

structure Element where
  tag : String
  attributes : Attributes
  children : List Element

namespace Element

/-- Induction over the tree, with the hypothesis for every child. -/
@[elab_as_elim, induction_eliminator]
theorem induction {motive : Element → Prop}
    (element : ∀ e, (∀ child ∈ e.children, motive child) → motive e) (e : Element) : motive e :=
  @Element.rec motive (fun es ↦ ∀ e ∈ es, motive e)
    (fun tag attributes children ↦ element ⟨tag, attributes, children⟩) nofun
    (fun _ _ h hs ↦ List.forall_mem_cons.2 ⟨h, hs⟩) e

def ofTag (tag : String) : Element :=
  ⟨tag, .empty, []⟩

def withAttribute (e : Element) (name value : String) : Element :=
  { e with attributes := e.attributes.insert name value }

def withChild (e child : Element) : Element :=
  { e with children := e.children ++ [child] }

def attribute? (e : Element) (name : String) : Option String :=
  e.attributes.get? name

/-- The direct children with the given tag. -/
def childrenNamed (e : Element) (tag : String) : List Element :=
  e.children.filter fun child ↦ child.tag == tag

end Element

end Introspection
