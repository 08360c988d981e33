import Introspection.Proofs.Markup.Tokens

/-!
# Reading pieces of markup

What reading a name, a reference, a comment, a verbatim section or an instruction does to the
reader. Nothing but the place changes within a piece, so a piece is read by a loop at one kind of
place, and its last character says what becomes of it.
-/

namespace Introspection.Markup

/-- Reading on after a character. -/
def goOn : Option Outcome → List Char → Option Markup
  | none, _ => none
  | some (.done root), _ => some root
  | some (.more r), rest => r.finish rest

namespace Reader

def goTo (r : Reader) (place : Place) : Reader :=
  { r with place }

variable {r : Reader} {c : Char} {text seen : List Char}

theorem endRun_goTo (place : Place) : (r.goTo place).endRun = r.endRun.goTo place := by
  have hrun : (r.goTo place).run = r.run := rfl
  unfold endRun
  rw [hrun]
  split <;> rfl

/-! ## Loops -/

theorem finish_cons (r : Reader) (c : Char) (rest : List Char) :
    r.finish (c :: rest) = goOn (r.step c) rest := by
  rw [finish]
  split
  · next h => rw [h, goOn]
  · next h => rw [h, goOn]
  · next h => rw [h, goOn]

/-- Characters that are only remembered. -/
theorem finish_append (place : List Char → Place)
    (h : ∀ c ∈ text, ∀ seen,
      (r.goTo (place seen)).step c = some (.more (r.goTo (place (c :: seen)))))
    (seen rest : List Char) :
    (r.goTo (place seen)).finish (text ++ rest) =
      (r.goTo (place (text.reverse ++ seen))).finish rest := by
  induction text generalizing seen with
  | nil => rfl
  | cons c text ih =>
    obtain ⟨hc, htext⟩ := List.forall_mem_cons.1 h
    rw [List.cons_append, finish_cons, hc seen, goOn, ih htext, List.reverse_cons,
      List.append_assoc]
    rfl

/-- Characters that are passed over. -/
theorem finish_append_of_stay {place : Place}
    (h : ∀ c ∈ text, (r.goTo place).step c = some (.more (r.goTo place))) (rest : List Char) :
    (r.goTo place).finish (text ++ rest) = (r.goTo place).finish rest :=
  finish_append (fun _ ↦ place) (fun c hc _ ↦ h c hc) [] rest

/-- Characters that are remembered as long as no mark is complete. -/
theorem finish_append_of_unbroken {place : List Char → Place} {mark : List Char}
    (hstep : ∀ seen c, isTextChar c = true → ¬ mark <:+ seen.reverse ++ [c] →
      (r.goTo (place seen)).step c = some (.more (r.goTo (place (c :: seen)))))
    (htext : IsText text) (before : List Char) (h : ¬ mark <:+: before ++ text) (rest : List Char) :
    (r.goTo (place before.reverse)).finish (text ++ rest) =
      (r.goTo (place (before ++ text).reverse)).finish rest := by
  induction text generalizing before with
  | nil => rw [List.append_nil, List.nil_append]
  | cons c text ih =>
    obtain ⟨hc, htext⟩ := List.forall_mem_cons.1 htext
    have happend : before ++ c :: text = before ++ [c] ++ text := by simp
    have hmark : ¬ mark <:+ before.reverse.reverse ++ [c] := by
      rw [List.reverse_reverse]
      intro hsuffix
      exact h (happend ▸ hsuffix.isInfix.trans (List.prefix_append _ text).isInfix)
    rw [happend] at h ⊢
    rw [List.cons_append, finish_cons, hstep _ c hc hmark, goOn, ← ih htext _ h]
    simp

/-- The end of a mark is not complete with another character than its last one. -/
theorem not_suffix_concat {mark before : List Char} {last : Char} (h : last ≠ c) :
    ¬ mark ++ [last] <:+ before ++ [c] := by
  rintro ⟨front, hfront⟩
  rw [← List.append_assoc] at hfront
  exact h (List.singleton_inj.1 (List.append_inj' hfront rfl).2)

/-! ## References -/

/-- A reference is remembered up to its semicolon, where it is resolved. -/
theorem finish_reference {place : List Char → Place} {resume : Char → Option Outcome}
    (hstep : ∀ seen c, isTextChar c = true → (r.goTo (place seen)).step c =
      if c = ';' then (resolve? seen.reverse).bind resume
      else some (.more (r.goTo (place (c :: seen)))))
    {reference : List Char} (h : Refers reference c) (rest : List Char) :
    (r.goTo (place [])).finish (reference ++ ';' :: rest) = goOn (resume c) rest := by
  have hchars : ∀ c ∈ reference, ∀ seen,
      (r.goTo (place seen)).step c = some (.more (r.goTo (place (c :: seen)))) := by
    intro c hc seen
    obtain ⟨htext, hne⟩ := isTextChar_of_refers h c hc
    rw [hstep seen c htext, if_neg hne]
  rw [finish_append place hchars, finish_cons, hstep _ ';' rfl, if_pos rfl, List.append_nil,
    List.reverse_reverse, resolve?_of_refers h, Option.bind_some]

/-- References stand in elements only. -/
theorem finish_of_refers {reference : List Char} (hstack : r.stack.isEmpty = false)
    (h : Refers reference c) (brackets : Nat) (rest : List Char) :
    (r.goTo (.text brackets)).finish ('&' :: (reference ++ ';' :: rest)) =
      goOn (Reader.resume { r with run := c :: r.run }) rest := by
  have hopen : (r.goTo (.text brackets)).step '&' = some (.more (r.goTo (.reference []))) := by
    have htext : (r.goTo (.text brackets)).step '&' =
        if r.stack.isEmpty then none else r.move (.reference []) := rfl
    rw [htext, hstack]
    rfl
  have hstep (seen : List Char) (c : Char) (htext : isTextChar c = true) :
      (r.goTo (.reference seen)).step c =
        if c = ';' then
          (resolve? seen.reverse).bind fun resolved ↦
            Reader.resume { r with run := resolved :: r.run }
        else some (.more (r.goTo (.reference (c :: seen)))) := by
    rw [step, htext]
    rfl
  rw [finish_cons, hopen, goOn, finish_reference hstep h]

/-! ## Comments -/

theorem step_comment {inType : Bool} {hyphens : Nat} (h : isTextChar c = true)
    (hhyphens : hyphens < 2) :
    (r.goTo (.comment inType hyphens)).step c =
      some (.more (r.goTo (.comment inType (if c = '-' then hyphens + 1 else 0)))) := by
  rw [step, h]
  change readComment _ _ _ _ = _
  rw [readComment, if_neg hhyphens.ne]
  split <;> rfl

/-- Where two hyphens never follow each other, a comment goes on. -/
theorem finish_comment {inType : Bool} {hyphens : Nat} (htext : IsText text)
    (hhyphens : hyphens < 2)
    (h : ¬ ['-', '-'] <:+: List.replicate hyphens '-' ++ (text ++ ['-'])) (rest : List Char) :
    (r.goTo (.comment inType hyphens)).finish (text ++ '-' :: '-' :: '>' :: rest) =
      goOn (r.leave inType) rest := by
  induction text generalizing hyphens with
  | nil =>
    have hzero : hyphens = 0 := by
      by_contra hne
      obtain rfl : hyphens = 1 := by omega
      exact h (List.infix_refl _)
    subst hzero
    cases inType <;> rfl
  | cons c text ih =>
    obtain ⟨hc, hrest⟩ := List.forall_mem_cons.1 htext
    rw [List.cons_append, finish_cons, step_comment hc hhyphens, goOn]
    split
    · next hhyphen =>
      have hzero : hyphens = 0 := by
        by_contra hne
        obtain rfl : hyphens = 1 := by omega
        exact h ⟨[], text ++ ['-'], by simp [hhyphen]⟩
      subst hzero hhyphen
      exact ih hrest (by decide) h
    · refine ih hrest (by decide) fun hhyphen ↦ h ?_
      exact hhyphen.trans ⟨List.replicate hyphens '-' ++ [c], [], by simp⟩

/-- A comment is passed over, whether it stands in a document type or not. -/
theorem exists_finish_comment {comment : List Char} (h : IsComment comment) (inType : Bool) :
    ∃ body, comment = ['<', '!', '-', '-'] ++ body ∧ ∀ rest,
      (r.goTo (.comment inType 0)).finish (body ++ rest) = goOn (r.leave inType) rest := by
  obtain ⟨body, rfl, hbody, hhyphens⟩ := h
  refine ⟨_, rfl, fun rest ↦ ?_⟩
  rw [List.append_assoc]
  exact finish_comment hbody (by decide) (by simpa using hhyphens) rest

theorem finish_of_isComment {comment : List Char} (h : IsComment comment) (brackets : Nat)
    (rest : List Char) :
    (r.goTo (.text brackets)).finish (comment ++ rest) = goOn r.resume rest := by
  obtain ⟨body, rfl, hfinish⟩ := exists_finish_comment (r := r) h false
  rw [List.append_assoc]
  exact hfinish rest

/-! ## Verbatim sections -/

theorem step_verbatim (h : isTextChar c = true)
    (hmark : ¬ [']', ']', '>'] <:+ seen.reverse ++ [c]) :
    (r.goTo (.verbatim seen)).step c = some (.more (r.goTo (.verbatim (c :: seen)))) := by
  rw [step, h]
  change readVerbatim _ _ _ = _
  unfold readVerbatim
  split
  · next before => exact absurd ⟨before.reverse, by simp⟩ hmark
  · rfl

/-- A verbatim section ends at its first end mark. -/
theorem finish_verbatim (htext : IsText text) (h : ¬ [']', ']', '>'] <:+: text) (rest : List Char) :
    (r.goTo (.verbatim [])).finish (text ++ ']' :: ']' :: '>' :: rest) =
      goOn (Reader.resume { r with run := text.reverse ++ r.run }) rest := by
  refine (finish_append_of_unbroken (fun _ _ ↦ step_verbatim) htext [] h _).trans ?_
  have hbracket (before : List Char) : ¬ [']', ']'] ++ ['>'] <:+ before ++ [']'] :=
    not_suffix_concat (by decide)
  rw [List.nil_append, finish_cons, step_verbatim rfl (hbracket _), goOn, finish_cons,
    step_verbatim rfl (hbracket _), goOn, finish_cons]
  rfl

theorem finish_of_writesVerbatim {written body : List Char} (hstack : r.stack.isEmpty = false)
    (h : WritesVerbatim written body) (brackets : Nat) (rest : List Char) :
    (r.goTo (.text brackets)).finish (written ++ rest) =
      goOn (Reader.resume { r with run := body.reverse ++ r.run }) rest := by
  obtain ⟨rfl, hbody, hmark⟩ := h
  have hopen : (r.goTo (.keyword ['A', 'T', 'A', 'D', 'C', '['])).step '[' =
      some (.more (r.goTo (.verbatim []))) := by
    have hkeyword : (r.goTo (.keyword ['A', 'T', 'A', 'D', 'C', '['])).step '[' =
        if r.stack.isEmpty then none else r.move (.verbatim []) := rfl
    rw [hkeyword, hstack]
    rfl
  have hstart : (r.goTo (.text brackets)).finish
      (['<', '!', '[', 'C', 'D', 'A', 'T', 'A', '['] ++ (body ++ [']', ']', '>']) ++ rest) =
        goOn ((r.goTo (.keyword ['A', 'T', 'A', 'D', 'C', '['])).step '[')
          (body ++ ']' :: ']' :: '>' :: rest) := by
    rw [List.append_assoc, List.append_assoc, ← finish_cons]
    rfl
  rw [hstart, hopen, goOn, finish_verbatim hbody hmark]

/-! ## Instructions -/

theorem step_instruction {inType : Bool} (h : isTextChar c = true)
    (hmark : ¬ ['?', '>'] <:+ seen.reverse ++ [c]) :
    (r.goTo (.instruction inType seen)).step c =
      some (.more (r.goTo (.instruction inType (c :: seen)))) := by
  rw [step, h]
  change readInstruction _ _ _ _ = _
  unfold readInstruction
  split
  · next before => exact absurd ⟨before.reverse, by simp⟩ hmark
  · rfl

theorem endInstruction_eq {inType : Bool} {target body : List Char} (htarget : IsNamePart target)
    (hxml : target.map Char.toLower ≠ ['x', 'm', 'l'])
    (hbody : ∀ c, body.head? = some c → isBlank c = true) :
    r.endInstruction inType (target ++ body) = r.endRun.leave inType := by
  have htake : (target ++ body).takeWhile (!isBlank ·) = target := by
    have hrest : body.takeWhile (!isBlank ·) = [] := by
      cases body with
      | nil => rfl
      | cons c body => simp [hbody c rfl]
    rw [List.takeWhile_append_of_pos, hrest, List.append_nil]
    intro c hc
    by_contra hblank
    have hname := (htarget.chars c hc).1
    rw [isNameChar_eq_false_of_isBlank (by simpa using hblank)] at hname
    cases hname
  have hne : target ≠ "xml".toList := by
    rintro rfl
    exact hxml rfl
  have hlegal : (target.head?.any isNameStart && target.all isNameChar) = true := by
    rw [htarget.head, Bool.true_and, List.all_eq_true]
    exact fun c hc ↦ (htarget.chars c hc).1
  have hlower : target.map Char.toLower ≠ "xml".toList := hxml
  unfold endInstruction
  rw [htake, if_neg hne, if_neg hlower, hlegal]
  rfl

theorem endInstruction_goTo (place : Place) (inType : Bool) (body : List Char) :
    (r.goTo place).endInstruction inType body = r.endInstruction inType body := by
  unfold endInstruction
  rw [endRun_goTo]
  rfl

/-- An instruction ends at its first end mark. -/
theorem finish_instruction {inType : Bool} (htext : IsText text) (h : ¬ ['?', '>'] <:+: text)
    (rest : List Char) :
    (r.goTo (.instruction inType [])).finish (text ++ '?' :: '>' :: rest) =
      goOn (r.endInstruction inType text) rest := by
  refine (finish_append_of_unbroken (fun _ _ ↦ step_instruction) htext [] h _).trans ?_
  have hquestion (before : List Char) : ¬ ['?'] ++ ['>'] <:+ before ++ ['?'] :=
    not_suffix_concat (by decide)
  have hstep : (r.goTo (.instruction inType ('?' :: text.reverse))).step '>' =
      (r.goTo (.instruction inType ('?' :: text.reverse))).endInstruction inType
        text.reverse.reverse :=
    rfl
  rw [List.nil_append, finish_cons, step_instruction rfl (hquestion _), goOn, finish_cons, hstep,
    List.reverse_reverse, endInstruction_goTo]

/-- An instruction is passed over, whether it stands in a document type or not. -/
theorem exists_finish_instruction {instruction : List Char} (h : IsInstruction instruction)
    (inType : Bool) :
    ∃ body, instruction = ['<', '?'] ++ body ∧ ∀ rest,
      (r.goTo (.instruction inType [])).finish (body ++ rest) =
        goOn (r.endRun.leave inType) rest := by
  obtain ⟨target, body, rfl, htarget, hxml, hbody, hblank, hmark⟩ := h
  have htext : IsText (target ++ body) := by
    intro c hc
    rcases List.mem_append.1 hc with hc | hc
    · exact isTextChar_of_isNameChar (htarget.chars c hc).1
    · exact hbody c hc
  refine ⟨_, rfl, fun rest ↦ ?_⟩
  have hbehind : target ++ (body ++ ['?', '>']) ++ rest = target ++ body ++ '?' :: '>' :: rest := by
    simp
  rw [hbehind, finish_instruction htext hmark, endInstruction_eq htarget hxml hblank]

theorem finish_of_isInstruction {instruction : List Char} (h : IsInstruction instruction)
    (brackets : Nat) (rest : List Char) :
    (r.goTo (.text brackets)).finish (instruction ++ rest) = goOn r.endRun.resume rest := by
  obtain ⟨body, rfl, hfinish⟩ := exists_finish_instruction (r := r) h false
  rw [List.append_assoc]
  exact hfinish rest

end Reader

end Introspection.Markup
