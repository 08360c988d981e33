import Introspection.Identifier

/-!
# What words and parts keep

Segments are cut from a text without loss. Words leave out the segments that hold no letter and no
digit, and the parts of a word leave out its underscores. So every letter and every digit of a name
stands in exactly one place of its parts, in the same order.
-/

namespace Introspection

/-! ## Segments and words -/

namespace Text

theorem flatMap_chars_cons (c : Char) (clusters : List Cluster) :
    (Cluster.cons c clusters).flatMap Cluster.chars = c :: clusters.flatMap Cluster.chars := by
  unfold Cluster.cons
  split <;> rfl

theorem flatMap_chars_clusters (cs : List Char) : (clusters cs).flatMap Cluster.chars = cs := by
  induction cs with
  | nil => rfl
  | cons c cs ih =>
    have hcons : clusters (c :: cs) = Cluster.cons c (clusters cs) := rfl
    rw [hcons, flatMap_chars_cons, ih]

/-- A segment that was begun needs a cluster to end with. -/
theorem flatten_segmentsFrom {before : BreakClass} {segment : List Char} {clusters : List Cluster}
    (h : clusters = [] → segment = []) :
    (segmentsFrom before segment clusters).flatten = segment ++ clusters.flatMap Cluster.chars := by
  fun_induction segmentsFrom before segment clusters with
  | case1 => simp [h rfl]
  | case2 => simp
  | case3 before segment a b rest after _ ih =>
    calc
      (segmentsFrom a.kind (segment ++ a.chars) (b :: rest)).flatten =
          segment ++ a.chars ++ (b :: rest).flatMap Cluster.chars := ih nofun
      _ = segment ++ (a :: b :: rest).flatMap Cluster.chars := List.append_assoc ..
  | case4 before segment a b rest after _ ih =>
    calc
      segment ++ a.chars ++ (segmentsFrom a.kind [] (b :: rest)).flatten =
          segment ++ a.chars ++ (b :: rest).flatMap Cluster.chars := by
        rw [ih nofun, List.nil_append]
      _ = segment ++ (a :: b :: rest).flatMap Cluster.chars := List.append_assoc ..

theorem flatten_segments (cs : List Char) : (segments cs).flatten = cs := by
  rw [segments, flatten_segmentsFrom fun _ ↦ rfl, List.nil_append, flatMap_chars_clusters]

/-- Lists without a member of the kind looked for can be left out. -/
theorem filter_flatten_filter_any {α : Type} (p : α → Bool) (lists : List (List α)) :
    (lists.filter fun list ↦ list.any p).flatten.filter p = lists.flatten.filter p := by
  induction lists with
  | nil => rfl
  | cons list lists ih =>
    rw [List.filter_cons, List.flatten_cons, List.filter_append]
    split
    · rw [List.flatten_cons, List.filter_append, ih]
    · next h =>
      have hnone : list.filter p = [] := List.filter_eq_nil_iff.2 (by simpa using h)
      rw [ih, hnone, List.nil_append]

theorem filter_flatten_words (cs : List Char) :
    (words cs).flatten.filter isAlphanumeric = cs.filter isAlphanumeric := by
  rw [words, filter_flatten_filter_any, flatten_segments]

theorem mem_of_mem_words {cs word : List Char} {c : Char} (hword : word ∈ words cs)
    (hc : c ∈ word) : c ∈ cs := by
  rw [← flatten_segments cs]
  exact List.mem_flatten_of_mem ((List.mem_filter.1 hword).1) hc

end Text

/-! ## Parts -/

namespace Identifier

open Text

/-- No part is lost, since one always ends before an underscore. So the current part is empty
whenever there is nothing to add to it. -/
theorem flatten_partsFrom {state : CaseState} {current cs : List Char}
    (h : (∀ c ∈ cs.head?, c = '_') → current = []) :
    (partsFrom state current cs).flatten = current.reverse ++ cs.filter (· ≠ '_') := by
  fun_induction partsFrom state current cs with
  | case1 => simp [h nofun]
  | case2 state current rest ih =>
    have hcurrent : current = [] := h (by simp)
    rw [ih fun _ ↦ hcurrent, List.filter_cons_of_neg (by simp)]
  | case3 => simp [*]
  | case4 state current c hc next rest hcut ih =>
    rw [List.flatten_cons, ih fun _ ↦ rfl, List.filter_cons_of_pos (a := c) (by simpa using hc)]
    simp
  | case5 state current c hc next rest hkeep hcut ih =>
    have hnext : next ≠ '_' := by
      intro hnext
      exact hkeep (by simp [hnext])
    rw [List.flatten_cons, ih fun hhead ↦ absurd (hhead next rfl) hnext,
      List.filter_cons_of_pos (a := c) (by simpa using hc)]
    rfl
  | case6 state current c hc next rest hkeep _ ih =>
    have hnext : next ≠ '_' := by
      intro hnext
      exact hkeep (by simp [hnext])
    rw [ih fun hhead ↦ absurd (hhead next rfl) hnext,
      List.filter_cons_of_pos (a := c) (by simpa using hc)]
    simp

theorem flatten_parts (name : String) :
    (parts name).flatten = (words name.toList).flatten.filter (· ≠ '_') := by
  rw [parts]
  induction words name.toList with
  | nil => rfl
  | cons word words ih =>
    rw [List.flatMap_cons, List.flatten_append, ih, flatten_partsFrom fun _ ↦ rfl,
      List.flatten_cons, List.filter_append]
    rfl

theorem mem_of_mem_parts {name : String} {part : List Char} {c : Char} (hpart : part ∈ parts name)
    (hc : c ∈ part) : c ∈ name.toList := by
  have hflatten : c ∈ (parts name).flatten := List.mem_flatten_of_mem hpart hc
  rw [flatten_parts] at hflatten
  obtain ⟨word, hword, hc⟩ := List.mem_flatten.1 (List.mem_filter.1 hflatten).1
  exact mem_of_mem_words hword hc

end Identifier

end Introspection
