import Introspection.Proofs.Markup.Tags

/-!
# Reading elements

The content of an element is read into the element on top of the stack: what has been read of it
grows by the nodes that were written, up to its end tag, where the element is added as a node to
the one below. A run of text is the only node that is not complete yet.
-/

namespace Introspection.Markup

namespace OpenElement

/-- Nodes at the end of the content. -/
def add (e : OpenElement) (nodes : List Markup) : OpenElement :=
  { e with content := nodes.reverse ++ e.content }

def close (e : OpenElement) : Markup :=
  .element e.name e.attributes e.content.reverse

@[simp]
theorem add_add (e : OpenElement) (nodes others : List Markup) :
    (e.add nodes).add others = e.add (nodes ++ others) := by
  simp [add]

end OpenElement

namespace Reader

variable {r : Reader} {tag : StartTag} {e : OpenElement} {stack : List OpenElement} {typed : Bool}
  {run : List Char} {c : Char} {name : Name}

/-! ## Between markup -/

/-- The reader between markup, behind a run of text. -/
def inside (typed : Bool) (stack : List OpenElement) (run : List Char) : Reader :=
  ⟨.text 0, false, typed, stack, run.reverse⟩

/-- What becomes of an element that is complete: it is the root, or a node of the element around
it. -/
def afterElement (typed : Bool) (stack : List OpenElement) (node : Markup) : Option Outcome :=
  if stack.isEmpty then some (.done node) else some (.more (inside typed (addNode node stack) []))

theorem resume_inside (piece : List Char) :
    Reader.resume
        { inside typed stack run with run := piece.reverse ++ (inside typed stack run).run } =
      some (.more (inside typed stack (run ++ piece))) := by
  simp [resume, inside]

theorem endRun_inside (run : List Char) :
    (inside typed (e :: stack) run).endRun = inside typed (e.add (runNodes run) :: stack) [] := by
  cases run with
  | nil => rfl
  | cons c run => simp [endRun, inside, runNodes, addNode, OpenElement.add]

/-! ## The ends of elements -/

theorem closeElement_eq (h : r.endRun.stack = e :: stack) :
    r.closeElement e.name = afterElement r.typed stack e.close := by
  unfold closeElement
  simp only [h, if_pos]
  have hnode : ({ r.endRun with stack := addNode e.close stack } : Reader).resume =
      some (.more (inside r.typed (addNode e.close stack) [])) := by
    simp [resume, inside]
  unfold afterElement
  rw [← hnode]
  rfl

theorem closeElement_goTo (place : Place) :
    (r.goTo place).closeElement name = r.closeElement name := by
  unfold closeElement
  rw [endRun_goTo]
  rfl

theorem step_endName_end {seen : List Char} (hname : Name.ofChars? seen.reverse = some name)
    (htext : isTextChar c = true) (hc : ¬ isNameChar c = true) :
    (r.goTo (.endName seen)).step c =
      if c = '>' then r.closeElement name
      else if isBlank c then r.move (.afterEndName name)
      else none := by
  rw [step, htext, ← closeElement_goTo (.endName seen)]
  refine (if_neg hc).trans ?_
  rw [hname]
  rfl

theorem step_afterEndName (hc : isBlank c = true) :
    (r.goTo (.afterEndName name)).step c = some (.more (r.goTo (.afterEndName name))) := by
  rw [step, isTextChar_of_isBlank hc]
  exact (if_neg (ne_of_isBlank hc rfl)).trans (if_pos hc)

theorem finish_end {ending : List Char} (h : WritesEnd ending name) (hname : name.IsLegal)
    (brackets : Nat) (rest : List Char) :
    (r.goTo (.text brackets)).finish (ending ++ rest) = goOn (r.closeElement name) rest := by
  obtain ⟨blanks, rfl, hblanks⟩ := h
  have hstart : (r.goTo (.text brackets)).finish
      ('<' :: '/' :: (name.text ++ (blanks ++ ['>'])) ++ rest) =
        (r.goTo (.endName [])).finish (name.text ++ (blanks ++ '>' :: rest)) := by
    simp only [List.append_assoc, List.cons_append]
    rfl
  have hofChars : Name.ofChars? name.text.reverse.reverse = some name := by
    rw [List.reverse_reverse, Name.ofChars?_text hname]
  rw [hstart, finish_append .endName fun c hc ↦ step_endName (hname.chars c hc), List.append_nil]
  cases blanks with
  | nil => rw [List.nil_append, finish_cons, step_endName_end hofChars rfl (by decide), if_pos rfl]
  | cons b blanks =>
    obtain ⟨hb, hblanks⟩ := List.forall_mem_cons.1 hblanks
    have hend : (r.goTo (.afterEndName name)).step '>' =
        (r.goTo (.afterEndName name)).closeElement name := rfl
    rw [List.cons_append, finish_cons, step_endName_end hofChars (isTextChar_of_isBlank hb)
      (not_isNameChar_of_ends (.inl hb)), if_neg (ne_of_isBlank hb rfl), if_pos hb]
    refine (finish_append_of_stay (fun c hc ↦ step_afterEndName (hblanks c hc)) _).trans ?_
    rw [finish_cons, hend, closeElement_goTo]

/-! ## The ends of start tags -/

theorem StandsBehind.step_gt (h : r.StandsBehind tag)
    (hopen : r.openElement tag = some (r.opened e)) :
    r.step '>' = some (.more (inside r.typed (e :: r.endRun.stack) [])) := by
  have hbetween : r.betweenParts tag '>' = (r.openElement tag).bind Reader.resume := rfl
  rw [h '>' (.inr (.inl rfl)), hbetween, hopen]
  simp [opened, resume, inside]

theorem StandsBehind.finish_slash (h : r.StandsBehind tag)
    (hopen : (r.goTo (.emptyTag tag)).openElement tag = some ((r.goTo (.emptyTag tag)).opened e))
    (hname : e.name = tag.name) (rest : List Char) :
    r.finish ('/' :: '>' :: rest) = goOn (afterElement r.typed r.endRun.stack e.close) rest := by
  have hslash : r.step '/' = some (.more (r.goTo (.emptyTag tag))) := h '/' (.inr (.inr rfl))
  have hend : (r.goTo (.emptyTag tag)).step '>' =
      ((r.goTo (.emptyTag tag)).openElement tag).bind (·.closeElement tag.name) := rfl
  have hrun : ((r.goTo (.emptyTag tag)).opened e).endRun = (r.goTo (.emptyTag tag)).opened e :=
    endRun_of_run_eq_nil (run_endRun _)
  have hstack : ((r.goTo (.emptyTag tag)).opened e).endRun.stack = e :: r.endRun.stack := by
    rw [hrun, opened, endRun_goTo]
    rfl
  have htyped : ((r.goTo (.emptyTag tag)).opened e).typed = r.typed := typed_endRun _
  rw [finish_cons, hslash, goOn, finish_cons, hend, hopen, Option.bind_some, ← hname,
    closeElement_eq hstack, htyped]

/-! ## Runs of text -/

/-- The closing brackets just read are not the start of an end mark of verbatim sections. -/
structure Pending (brackets : Nat) (text : List Char) : Prop where
  one : 1 ≤ brackets → ¬ [']', '>'] <+: text
  two : 2 ≤ brackets → ¬ ['>'] <+: text

theorem Pending.zero (text : List Char) : Pending 0 text :=
  ⟨fun h ↦ absurd h (by decide), fun h ↦ absurd h (by decide)⟩

/-- The brackets that count behind a character. -/
def nextBrackets (brackets : Nat) (c : Char) : Nat :=
  if c = ']' then min 2 (brackets + 1) else 0

theorem Pending.tail {brackets : Nat} {text : List Char} (h : Pending brackets (c :: text))
    (hmark : ¬ [']', ']', '>'] <+: c :: text) : Pending (nextBrackets brackets c) text := by
  unfold nextBrackets
  split
  · next hc =>
    subst hc
    refine ⟨fun _ hbegins ↦ hmark (List.cons_prefix_cons.2 ⟨rfl, hbegins⟩), fun hle hbegins ↦ ?_⟩
    exact h.one (by omega) (List.cons_prefix_cons.2 ⟨rfl, hbegins⟩)
  · exact Pending.zero text

theorem step_text {brackets : Nat} {text : List Char} (htext : isTextChar c = true)
    (hc : c ∉ ['<', '&']) (hpending : Pending brackets (c :: text)) :
    ((inside typed (e :: stack) run).goTo (.text brackets)).step c =
      some (.more ((inside typed (e :: stack) (run ++ [c])).goTo
        (.text (nextBrackets brackets c)))) := by
  have hrun : (run ++ [c]).reverse = c :: run.reverse := List.reverse_concat
  have hend : ¬ (decide (c = '>') && brackets == 2) = true := by
    intro h
    obtain ⟨hgt, hbrackets⟩ := Bool.and_eq_true_iff.1 h
    obtain rfl := of_decide_eq_true hgt
    exact hpending.two (eq_of_beq hbrackets).ge ⟨text, rfl⟩
  simp only [List.mem_cons, List.not_mem_nil, or_false, not_or] at hc
  rw [step, htext]
  change readText _ _ _ = _
  unfold readText nextBrackets
  rw [if_neg hc.1]
  change (if c = '&' then _ else _) = _
  rw [if_neg hc.2, if_neg hend]
  unfold inside
  rw [hrun]
  split <;> rfl

/-! ## Elements and their content -/

mutual

/-- An element is read from behind its attributes. -/
theorem finish_body {scopes : List String} {name : Name} {text start : List Char}
    {nodes : List Markup} {attributes : List (Name × String)}
    (h : WritesBody scopes name text nodes) {r : Reader} {place : Place}
    (hstart : WritesStart r.scopes start name attributes)
    (hscopes : boundScopes attributes ++ r.scopes = scopes)
    (hplace : (r.goTo place).StandsBehind ⟨name, attributes.reverse⟩) (rest : List Char) :
    (r.goTo place).finish (text ++ rest) =
      goOn (afterElement r.typed r.endRun.stack
        (.element name (ownAttributes attributes) nodes)) rest := by
  have hopen (place : Place) :=
    openElement_of_writesStart (r := r.goTo place) (hstart : WritesStart (r.goTo place).scopes ..)
  have hstack : (r.goTo place).endRun.stack = r.endRun.stack := by
    rw [endRun_goTo]
    rfl
  match h with
  | .closed =>
    refine (hplace.finish_slash (hopen (.emptyTag _)) rfl rest).trans ?_
    rw [hstack]
    rfl
  | .opened hcontent hending =>
    rw [List.cons_append, List.append_assoc, finish_cons, hplace.step_gt (hopen place), goOn,
      hstack]
    refine (finish_content hcontent hscopes hstart.legal hending (Pending.zero _) rest).trans ?_
    simp [OpenElement.close, OpenElement.add]

/-- The content of an element is read from any character on. -/
theorem finish_content {scopes : List String} {run text ending : List Char} {nodes : List Markup}
    (h : WritesContent scopes run text nodes) {typed : Bool} {e : OpenElement}
    {stack : List OpenElement} {brackets : Nat} (hscopes : e.scopes = scopes)
    (hname : e.name.IsLegal) (hending : WritesEnd ending e.name) (hpending : Pending brackets text)
    (rest : List Char) :
    ((inside typed (e :: stack) run).goTo (.text brackets)).finish (text ++ (ending ++ rest)) =
      goOn (afterElement typed stack (e.add nodes).close) rest := by
  -- By recursion on how the content was written, for every element on top of the stack: the pieces
  -- that end a run add nodes to it, the others make the run longer.
  match h with
  | .nil =>
    have hstack : (inside typed (e :: stack) run).endRun.stack = e.add (runNodes run) :: stack := by
      rw [endRun_inside]
      rfl
    rw [List.nil_append, finish_end hending hname]
    exact congrArg (goOn · rest) (closeElement_eq hstack)
  | .char htext hc hmark hcontent =>
    rw [List.cons_append, finish_cons, step_text htext hc hpending, goOn]
    exact finish_content hcontent hscopes hname hending (hpending.tail hmark) rest
  | .reference hreference hcontent =>
    simp only [List.cons_append, List.append_assoc]
    rw [finish_of_refers rfl hreference]
    refine (congrArg (goOn · _) (resume_inside [_])).trans ?_
    exact finish_content hcontent hscopes hname hending (Pending.zero _) rest
  | .comment hcomment hcontent =>
    rw [List.append_assoc, finish_of_isComment hcomment]
    exact finish_content hcontent hscopes hname hending (Pending.zero _) rest
  | .verbatim hverbatim hcontent =>
    rw [List.append_assoc, finish_of_writesVerbatim rfl hverbatim]
    refine (congrArg (goOn · _) (resume_inside _)).trans ?_
    exact finish_content hcontent hscopes hname hending (Pending.zero _) rest
  | .instruction hinstruction hcontent =>
    rw [List.append_assoc, finish_of_isInstruction hinstruction, endRun_inside,
      ← OpenElement.add_add]
    exact finish_content (e := e.add (runNodes run)) hcontent hscopes hname hending
      (Pending.zero _) rest
  | .element hstart hbody hcontent =>
    obtain ⟨place, hplace, hfinish⟩ := exists_finish_start
      (r := inside typed (e :: stack) run) hstart brackets
    simp only [List.append_assoc]
    rw [hfinish, finish_body hbody (hscopes ▸ hstart) (by rw [← hscopes]; rfl) hplace,
      endRun_inside]
    refine (finish_content (e := (e.add (runNodes run)).add [.element _ _ _]) hcontent hscopes hname
      hending (Pending.zero _) rest).trans ?_
    rw [OpenElement.add_add, OpenElement.add_add]
    rfl

end

end Reader

end Introspection.Markup
