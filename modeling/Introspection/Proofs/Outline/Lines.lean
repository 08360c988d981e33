import Introspection.Outline
import Introspection.Proofs.Text.Reading
import Mathlib.Data.List.Basic

/-!
# Lines

Some lines are known from the text that they make up, as long as no line holds a line break of its
own. Setting in such a text sets in every one of its lines.
-/

namespace Introspection.Text

/-! ## Texts without line breaks -/

def IsLine (s : String) : Prop :=
  ∀ c ∈ s.toList, c ≠ '\n' ∧ c ≠ '\r'

instance : DecidablePred IsLine := fun s ↦
  List.decidableBAll (fun c ↦ c ≠ '\n' ∧ c ≠ '\r') s.toList

namespace IsLine

variable {s t : String}

theorem append (hs : IsLine s) (ht : IsLine t) : IsLine (s ++ t) := by
  rw [IsLine, String.toList_append, List.forall_mem_append]
  exact ⟨hs, ht⟩

theorem enclosed {left right : String} (hleft : IsLine left) (h : IsLine s)
    (hright : IsLine right) : IsLine (left ++ s ++ right) :=
  (hleft.append h).append hright

theorem join {pieces : List String} (h : ∀ piece ∈ pieces, IsLine piece) :
    IsLine (String.join pieces) := by
  intro c hc
  rw [String.toList_join, List.mem_flatMap] at hc
  obtain ⟨piece, hpiece, hc⟩ := hc
  exact h piece hpiece c hc

theorem intercalate (hs : IsLine s) {pieces : List String} (h : ∀ piece ∈ pieces, IsLine piece) :
    IsLine (s.intercalate pieces) := by
  induction pieces with
  | nil => exact nofun
  | cons piece pieces ih =>
    obtain ⟨hpiece, hpieces⟩ := List.forall_mem_cons.1 h
    cases pieces with
    | nil => exact hpiece
    | cons next pieces =>
      rw [String.intercalate_cons_cons]
      exact (hpiece.append hs).append (ih hpieces)

theorem bracketed {pieces : List String} (h : ∀ piece ∈ pieces, IsLine piece) :
    IsLine (bracketed pieces) :=
  .enclosed (by decide) (intercalate (by decide) h) (by decide)

theorem braced (h : IsLine s) : IsLine (braced s) :=
  .enclosed (by decide) h (by decide)

end IsLine

/-- A line that is not blank at its beginning. -/
structure IsLabel (s : String) : Prop where
  isLine : IsLine s
  head : s.toList.head?.any (· ≠ ' ') = true

instance : DecidablePred IsLabel := fun s ↦
  decidable_of_iff (IsLine s ∧ s.toList.head?.any (· ≠ ' ') = true)
    ⟨fun h ↦ ⟨h.1, h.2⟩, fun h ↦ ⟨h.isLine, h.head⟩⟩

theorem IsLabel.append {s t : String} (hs : IsLabel s) (ht : IsLine t) : IsLabel (s ++ t) := by
  refine ⟨hs.isLine.append ht, ?_⟩
  have hhead := hs.head
  rw [String.toList_append]
  cases hlist : s.toList with
  | nil => simp [hlist] at hhead
  | cons c cs => simpa [hlist] using hhead

/-! ## Lines of a text -/

/-- The text with the given lines. -/
def unlines (lines : List String) : String :=
  String.join (lines.map line)

theorem toList_unlines_cons (l : String) (ls : List String) :
    (unlines (l :: ls)).toList = l.toList ++ '\n' :: (unlines ls).toList := by
  simp [unlines, line]

theorem unlines_append (ls ls' : List String) :
    unlines (ls ++ ls') = unlines ls ++ unlines ls' := by
  rw [unlines, List.map_append, String.join_append]
  rfl

theorem unlines_inj {ls ls' : List String} (hls : ∀ l ∈ ls, IsLine l) (hls' : ∀ l ∈ ls', IsLine l)
    (h : unlines ls = unlines ls') : ls = ls' := by
  induction ls generalizing ls' with
  | nil =>
    cases ls' with
    | nil => rfl
    | cons l' ls' =>
      have hlists := congrArg String.toList h
      rw [toList_unlines_cons] at hlists
      simp [unlines] at hlists
  | cons l ls ih =>
    have hlists := congrArg String.toList h
    rw [toList_unlines_cons] at hlists
    cases ls' with
    | nil => simp [unlines] at hlists
    | cons l' ls' =>
      obtain ⟨hl, hls⟩ := List.forall_mem_cons.1 hls
      obtain ⟨hl', hls'⟩ := List.forall_mem_cons.1 hls'
      have hbreak : '\n' ∉ l.toList := fun hmem ↦ (hl _ hmem).1 rfl
      have hbreak' : '\n' ∉ l'.toList := fun hmem ↦ (hl' _ hmem).1 rfl
      rw [toList_unlines_cons] at hlists
      obtain ⟨hfirst, hrest⟩ := append_cons_inj hbreak hbreak' hlists
      rw [String.toList_inj.1 hfirst, ih hls hls' (String.toList_inj.1 hrest)]

/-! ## Setting in -/

def setIn (line : String) : String :=
  "  " ++ line

theorem linesFrom_append {cs before : List Char} (hcs : ∀ c ∈ cs, c ≠ '\n' ∧ c ≠ '\r')
    (hbefore : ∀ c ∈ before, c ≠ '\r') (rest : List Char) :
    indented.linesFrom before (cs ++ '\n' :: rest) =
      ' ' :: ' ' :: (before.reverse ++ cs ++ '\n' :: indented.linesFrom [] rest) := by
  induction cs generalizing before with
  | nil =>
    have hhead : before.head? ≠ some '\r' := fun h ↦ hbefore _ (List.mem_of_head? h) rfl
    simp [indented.linesFrom, hhead]
  | cons c cs ih =>
    obtain ⟨hc, hcs⟩ := List.forall_mem_cons.1 hcs
    rw [List.cons_append, indented.linesFrom, if_neg hc.1,
      ih hcs (List.forall_mem_cons.2 ⟨hc.2, hbefore⟩)]
    simp

theorem ofList_indented_unlines {ls : List String} (h : ∀ l ∈ ls, IsLine l) :
    String.ofList (indented (unlines ls).toList) = unlines (ls.map setIn) := by
  rw [← String.toList_inj, String.toList_ofList, indented]
  induction ls with
  | nil => rfl
  | cons l ls ih =>
    obtain ⟨hl, hls⟩ := List.forall_mem_cons.1 h
    rw [toList_unlines_cons, linesFrom_append hl (List.forall_mem_nil _), ih hls, List.map_cons,
      toList_unlines_cons]
    simp [setIn]

end Introspection.Text
