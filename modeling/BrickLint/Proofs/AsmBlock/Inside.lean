import BrickLint.Proofs.AsmBlock.Places
import BrickLint.Proofs.BraceScope.Pairs

/-!
# Inside an assembly block

Once the walk is inside an assembly block, nothing is pending: no declaration is open, no header and
no kind of block is announced, and above the block lie only plain blocks. Identifiers are passed
over, so all this stays true until the brace that closes the block, and no step on the way finds or
notes anything.
-/

namespace BrickLint

namespace ScopeStack

/-- The open scopes as they look from inside an assembly block: plain blocks that wait for nothing,
down to the assembly block, and none of its kind below it. -/
inductive IsAsmShape : List (ScopeKind × Bool) → Prop
  | asm {outer : List (ScopeKind × Bool)} (houter : outer.any (·.1 == .asm) = false) :
    IsAsmShape ((.asm, false) :: outer)
  | block {outer : List (ScopeKind × Bool)} (houter : IsAsmShape outer) :
    IsAsmShape ((.block, false) :: outer)

variable {s : ScopeStack} {entry : ScopeKind × Bool} {outer : List (ScopeKind × Bool)}

/-- Whether a scope of a kind is open can be seen from the shape. -/
theorem inside_eq_any_shape (s : ScopeStack) (kind : ScopeKind) :
    s.inside kind = s.shape.any (·.1 == kind) := by
  rw [shape, List.any_map]
  rfl

/-- The shape of an assembly block is seen inside one. -/
theorem IsAsmShape.inside (h : IsAsmShape s.shape) : s.inside .asm = true := by
  rw [inside_eq_any_shape]
  generalize s.shape = shape at h
  induction h with
  | asm => rfl
  | block _ ih => simpa using ih

/-- Inside an assembly block the innermost scope is a plain block or the assembly block. -/
theorem IsAsmShape.exists_eq_cons (h : IsAsmShape s.shape) :
    ∃ kind outer, s.shape = (kind, false) :: outer ∧ (kind = .asm ∨ kind = .block) := by
  cases hshape : s.shape with
  | nil => rw [hshape] at h; cases h
  | cons entry outer =>
    rw [hshape] at h
    cases h with
    | asm => exact ⟨_, _, rfl, Or.inl rfl⟩
    | block => exact ⟨_, _, rfl, Or.inr rfl⟩

/-- The first entry of a shape is the innermost scope. -/
theorem exists_stack_of_shape_eq_cons (h : s.shape = entry :: outer) :
    ∃ index rest, s.stack = index :: rest ∧ s.current = s.scopeAt index ∧
      entry = (s.current.kind, s.current.awaitingBrace) ∧
      outer = rest.map fun i => ((s.scopeAt i).kind, (s.scopeAt i).awaitingBrace) := by
  obtain ⟨index, rest, hstack, rfl, rfl⟩ := List.map_eq_cons_iff.mp h
  have hcurrent : s.current = s.scopeAt index := by simp [current, currentIndex, hstack]
  exact ⟨index, rest, hstack, hcurrent, by rw [hcurrent], rfl⟩

/-- Inside an assembly block the innermost scope waits for nothing, and no variable is declared
behind it. -/
theorem IsAsmShape.current_eq (h : IsAsmShape s.shape) :
    s.current.awaitingBrace = false ∧ s.current.kind ≠ .aggregate ∧ s.current.kind ≠ .enum := by
  obtain ⟨kind, outer, hshape, hkind⟩ := h.exists_eq_cons
  obtain ⟨_, _, _, _, hentry, _⟩ := exists_stack_of_shape_eq_cons hshape
  obtain ⟨rfl, hawaiting⟩ := Prod.mk.inj hentry
  refine ⟨hawaiting.symm, ?_, ?_⟩ <;> rcases hkind with hkind | hkind <;> simp [hkind]

/-- Dropping waiting scopes changes nothing when the innermost scope waits for nothing. -/
theorem popWhile_eq_self (h : s.current.awaitingBrace = false) {p : Scope → Bool}
    (hp : ∀ scope, p scope = true → scope.awaitingBrace = true) : s.popWhile p = s := by
  have hstop : p s.current = false := by
    rw [Bool.eq_false_iff]
    exact fun hdrop => Bool.noConfusion (h.symm.trans (hp _ hdrop))
  have hstack : dropEntries (fun index => p (s.scopeAt index)) s.stack = s.stack := by
    match hs : s.stack with
    | [] => rfl
    | [_] => rfl
    | index :: outer :: rest =>
      have hcurrent : s.current = s.scopeAt index := by simp [current, currentIndex, hs]
      rw [hcurrent] at hstop
      simp [dropEntries, hstop]
  rw [popWhile, hstack]

/-- Closing the innermost scope leaves the others. -/
theorem shape_pop (h : s.shape = entry :: outer) (houter : outer ≠ []) : s.pop.shape = outer := by
  obtain ⟨index, rest, hstack, _, _, rfl⟩ := exists_stack_of_shape_eq_cons h
  cases rest with
  | nil => exact absurd rfl houter
  | cons next rest =>
    change (popEntry s.stack).map _ = _
    rw [hstack]
    rfl

/-- A change that keeps the kinds of all scopes does not lead into an assembly block, and neither
does closing scopes. -/
theorem inside_eq_false_of_suffix {t : ScopeStack} {kind : ScopeKind}
    (hstack : t.stack <:+ s.stack)
    (hkind : ∀ index, (t.scopeAt index).kind = (s.scopeAt index).kind)
    (h : s.inside kind = false) : t.inside kind = false := by
  simp only [inside, List.any_eq_false, hkind] at h ⊢
  exact fun index hindex => h index (hstack.subset hindex)

end ScopeStack

namespace Walk

/-- The walk is inside an assembly block, and nothing is pending. -/
structure InAsm (w : Walk) : Prop where
  /-- Above the assembly block lie plain blocks. -/
  shape : ScopeStack.IsAsmShape w.scopes.shape
  /-- No declaration is open. -/
  decl : w.decl = none
  /-- No header is announced. -/
  header : w.pendingHeader = none
  /-- No kind of block is announced. -/
  block : w.pendingBlock = none

namespace InAsm

variable {w : Walk}

/-- An opening brace opens a plain block. -/
theorem openBrace_eq (hw : w.InAsm) (line : Nat) :
    w.openBrace line = { w with scopes := w.scopes.push .block line } := by
  obtain ⟨hshape, hdecl, _, hblock⟩ := hw
  obtain ⟨hawaiting, _⟩ := hshape.current_eq
  unfold Walk.openBrace Walk.openBrace.openBlock
  simp [hdecl, hawaiting, hblock]

/-- A closing brace closes the innermost block. -/
theorem closeBrace_eq (hw : w.InAsm) : w.closeBrace = { w with scopes := w.scopes.pop } := by
  obtain ⟨hshape, hdecl, hheader, _⟩ := hw
  obtain ⟨hawaiting, haggregate, henum⟩ := hshape.current_eq
  have hwaiting : w.scopes.popWhile (·.awaitingBrace) = w.scopes :=
    ScopeStack.popWhile_eq_self hawaiting fun _ => id
  have hdeclares : (w.scopes.popped?.any fun scope =>
      scope.kind == .aggregate || scope.kind == .enum) = false := by
    unfold ScopeStack.popped?
    split
    case h_1 index _ _ hstack =>
      have hcurrent : w.scopes.current = w.scopes.scopeAt index := by
        simp [ScopeStack.current, ScopeStack.currentIndex, hstack]
      rw [hcurrent] at haggregate henum
      simp [haggregate, henum]
    case h_2 => rfl
  unfold Walk.closeBrace Walk.closeBlock
  simp [hdecl, hwaiting, hdeclares, hheader]

/-- The opening brace leads into a plain block inside the assembly block. -/
theorem openBrace (hw : w.InAsm) (hground : w.scopes.WellFormed) (line : Nat) :
    (w.openBrace line).InAsm ∧
      (w.openBrace line).scopes.shape = (.block, false) :: w.scopes.shape := by
  have hpush := ScopeStack.shape_push hground .block line none
  rw [hw.openBrace_eq line]
  exact ⟨⟨hpush ▸ .block hw.shape, hw.decl, hw.header, hw.block⟩, hpush⟩

/-- The closing brace leads out of a plain block inside the assembly block. -/
theorem closeBrace (hw : w.InAsm) {outer : List (ScopeKind × Bool)}
    (hshape : w.scopes.shape = (.block, false) :: outer) :
    w.closeBrace.InAsm ∧ w.closeBrace.scopes.shape = outer := by
  have houter : ScopeStack.IsAsmShape outer := by
    have h := hw.shape
    rw [hshape] at h
    cases h with
    | block houter => exact houter
  have hne : outer ≠ [] := by rintro rfl; cases houter
  have hpop := ScopeStack.shape_pop hshape hne
  rw [hw.closeBrace_eq]
  exact ⟨⟨hpop ▸ houter, hw.decl, hw.header, hw.block⟩, hpop⟩

/-- Parentheses and square brackets change nothing that is seen. -/
theorem readMark (hw : w.InAsm) (line : Nat) {mark : BracketMark}
    (hopens : mark ≠ .opens .brace) (hcloses : mark ≠ .closes .brace) :
    (w.readMark line mark).InAsm ∧ (w.readMark line mark).scopes.shape = w.scopes.shape := by
  obtain ⟨hshape, hdecl, hheader, hblock⟩ := hw
  cases mark with
  | opens bracket =>
    cases bracket with
    | paren =>
      simp only [Walk.readMark, Walk.openParen, hheader, hdecl]
      exact ⟨⟨hshape, rfl, rfl, hblock⟩, trivial⟩
    | square =>
      exact ⟨⟨hshape, by simp [Walk.readMark, hdecl], hheader, hblock⟩, rfl⟩
    | brace => exact absurd rfl hopens
  | closes bracket =>
    cases bracket with
    | paren =>
      have hsame : w.closeParen.scopes.shape = w.scopes.shape :=
        ScopeStack.shape_modifyAt _ _ fun scope => by unfold closeHeader; split <;> rfl
      exact ⟨⟨hsame ▸ hshape, by simp [Walk.readMark, Walk.closeParen, hdecl], hheader, hblock⟩,
        hsame⟩
    | square =>
      exact ⟨⟨hshape, by simp [Walk.readMark, hdecl], hheader, hblock⟩, rfl⟩
    | brace => exact absurd rfl hcloses

end InAsm

end Walk

variable {env : Environment} {w w' : Walk} {step : WalkStep} {steps : List WalkStep}

namespace WalkStep

/-- Inside an assembly block an identifier changes nothing. -/
theorem after_of_inside (hkind : step.token.kind = .ident)
    (hinside : step.before.scopes.inside .asm = true) : step.after env = step.before := by
  simp [after, read, hkind, Walk.ident, hinside]

/-- Inside an assembly block nothing is found and nothing is noted. -/
theorem isSilent_of_inside (hinside : step.before.scopes.inside .asm = true) :
    step.IsSilent env := by
  cases hkind : step.token.kind with
  | ident =>
    have hsame : step.after env = step.before := after_of_inside hkind hinside
    exact ⟨by rw [hsame], by rw [hsame]⟩
  | number =>
    have hsame : step.after env = step.before := by simp [after, read, hkind]
    exact ⟨by rw [hsame], by rw [hsame]⟩
  | punct =>
    have hread : step.after env = step.before.punct step.code.number step.token.text := by
      simp [after, read, hkind]
    exact ⟨by rw [hread, Walk.findings_punct], by rw [hread, Walk.calls_punct]⟩

/-- Inside an assembly block a token that is no bracket changes nothing. -/
theorem after_of_inAsm (hmark : step.token.mark? = none) (hw : step.before.InAsm) :
    step.after env = step.before := by
  cases hkind : step.token.kind with
  | ident => exact after_of_inside hkind hw.shape.inside
  | number => simp [after, read, hkind]
  | punct =>
    have hend : step.before.scopes.popWhile
        (fun scope => scope.awaitingBrace && !scope.headerOpen) = step.before.scopes :=
      ScopeStack.popWhile_eq_self hw.shape.current_eq.1 fun scope hscope =>
        (Bool.and_eq_true_iff.mp hscope).1
    have hsame : ∀ decl : Option OpenDeclaration, decl = none →
        { step.before with decl := decl } = step.before := by
      rintro _ rfl
      rw [← hw.decl]
    have hother := Token.ne_of_mark?_eq_none hkind hmark
    simp only [after, read, hkind, Walk.punct_of_ne_mark _ _ hother, Walk.endStatement, hend]
    split
    · exact hsame none rfl
    split
    · exact hsame _ (by rw [hw.decl]; rfl)
    split
    · exact hsame _ (by rw [hw.decl]; rfl)
    · rfl

/-- Inside an assembly block a token that is no brace changes nothing that is seen. -/
theorem inAsm_after (env : Environment) (hw : step.before.InAsm)
    (hopens : step.token.mark? ≠ some (.opens .brace))
    (hcloses : step.token.mark? ≠ some (.closes .brace)) :
    (step.after env).InAsm ∧ (step.after env).scopes.shape = step.before.scopes.shape := by
  cases hmark : step.token.mark? with
  | none =>
    have hsame : step.after env = step.before := after_of_inAsm hmark hw
    exact ⟨hsame.symm ▸ hw, by rw [hsame]⟩
  | some mark =>
    rw [hmark] at hopens hcloses
    rw [after_of_mark env hmark]
    exact hw.readMark step.code.number (by simpa using hopens) (by simpa using hcloses)

end WalkStep

/-- Inside an assembly block, steps that read no brackets stay there. -/
theorem inAsm_of_marks_eq_nil (hrun : IsRun env w steps w') (hmarks : WalkStep.marks steps = [])
    (hw : w.InAsm) : w' = w ∧ ∀ step ∈ steps, step.before.InAsm := by
  induction steps generalizing w with
  | nil =>
    obtain rfl : w = w' := hrun
    exact ⟨rfl, by simp⟩
  | cons step steps ih =>
    obtain ⟨rfl, hrun⟩ := hrun
    obtain ⟨hmark, hmarks⟩ := List.forall_mem_cons.mp (List.filterMap_eq_nil_iff.mp hmarks)
    rw [WalkStep.after_of_inAsm hmark hw] at hrun
    obtain ⟨hend, hsteps⟩ := ih hrun (List.filterMap_eq_nil_iff.mpr hmarks) hw
    exact ⟨hend, List.forall_mem_cons.mpr ⟨hw, hsteps⟩⟩

/-- Inside an assembly block, steps with well nested brackets stay there: braces open and close
plain blocks. -/
theorem inAsm_of_wellNested {marks : List BracketMark} (hnested : WellNested marks)
    (hmarks : WalkStep.marks steps = marks) (hrun : IsRun env w steps w')
    (hground : w.scopes.Grounded) (hw : w.InAsm) :
    w'.InAsm ∧ w'.scopes.shape = w.scopes.shape ∧ ∀ step ∈ steps, step.before.InAsm := by
  -- The induction follows the pairs; the steps are those of each part.
  induction hnested generalizing w w' steps with
  | nil =>
    obtain ⟨rfl, hsteps⟩ := inAsm_of_marks_eq_nil hrun hmarks hw
    exact ⟨hw, rfl, hsteps⟩
  | pair bracket hinner hrest ihinner ihrest =>
    rw [← List.nil_append (_ :: _)] at hmarks
    obtain ⟨pre, opening, mid, closing, post, rfl, hpre, hopening, hmid, hclosing, hpost⟩ :=
      exists_pair_of_marks_eq hmarks
    obtain ⟨hrunpre, hrunmid, hrunpost⟩ := hrun.cut
    obtain ⟨hsame, hpresteps⟩ := inAsm_of_marks_eq_nil hrunpre hpre hw
    rw [← hsame] at hw hground ⊢
    have hbegun := opening.grounded_after env hground
    have hpair : (closing.after env).InAsm ∧
        (closing.after env).scopes.shape = opening.before.scopes.shape ∧
        (∀ step ∈ mid, step.before.InAsm) ∧ closing.before.InAsm := by
      by_cases hbrace : bracket = .brace
      · subst hbrace
        obtain ⟨hopened, hshape⟩ := hw.openBrace hground.toWellFormed opening.code.number
        have hafter : opening.after env = opening.before.openBrace opening.code.number :=
          WalkStep.after_of_mark env hopening
        rw [← hafter] at hopened hshape
        obtain ⟨hended, hkept, hmidsteps⟩ := ihinner hmid hrunmid hbegun hopened
        have hclosed := hended.closeBrace (hkept.trans hshape)
        rw [WalkStep.after_of_mark env hclosing]
        exact ⟨hclosed.1, hclosed.2, hmidsteps, hended⟩
      · have hother : ∀ mark : BracketMark, mark = .opens bracket ∨ mark = .closes bracket →
            some mark ≠ some (.opens .brace) ∧ some mark ≠ some (.closes .brace) := by
          rintro _ (rfl | rfl) <;> simp [hbrace]
        obtain ⟨hopened, hshape⟩ := WalkStep.inAsm_after env hw
          (hopening ▸ (hother _ (Or.inl rfl)).1) (hopening ▸ (hother _ (Or.inl rfl)).2)
        obtain ⟨hended, hkept, hmidsteps⟩ := ihinner hmid hrunmid hbegun hopened
        obtain ⟨hclosed, hsame'⟩ := WalkStep.inAsm_after env hended
          (hclosing ▸ (hother _ (Or.inr rfl)).1) (hclosing ▸ (hother _ (Or.inr rfl)).2)
        exact ⟨hclosed, hsame'.trans (hkept.trans hshape), hmidsteps, hended⟩
    obtain ⟨hclosed, hshape, hmidsteps, hended⟩ := hpair
    have hground' := closing.grounded_after env (grounded_of_isRun hrunmid hbegun)
    obtain ⟨hend, hkept, hpoststeps⟩ := ihrest hpost hrunpost hground' hclosed
    refine ⟨hend, hkept.trans hshape, fun step hstep => ?_⟩
    simp only [List.mem_append, List.mem_cons] at hstep
    rcases hstep with hstep | rfl | hstep | rfl | hstep
    · exact hpresteps step hstep
    · exact hw
    · exact hmidsteps step hstep
    · exact hended
    · exact hpoststeps step hstep

end BrickLint
