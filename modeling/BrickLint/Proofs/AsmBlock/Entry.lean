import BrickLint.Proofs.AsmBlock.Inside

/-!
# Into an assembly block

A walk gets into an assembly block only by a brace that opens one, and then nothing is pending. So
in every state of a walk over a source, being inside an assembly block is enough for nothing to be
pending. The brace behind the word `asm` opens a block of its own unless it starts a braced
initializer or is taken for the body of a header that waits.
-/

namespace BrickLint

namespace ScopeStack

variable {s : ScopeStack}

/-- A new scope leads into an assembly block if it is one. -/
theorem inside_push (hs : s.WellFormed) (kind own : ScopeKind) (line : Int)
    (headerDepth : Option Int) :
    (s.push own line headerDepth).inside kind = (own == kind || s.inside kind) := by
  rw [inside_eq_any_shape, shape_push hs, List.any_cons, inside_eq_any_shape]

/-- Closing scopes does not lead into an assembly block. -/
theorem inside_popWhile (p : Scope → Bool) {kind : ScopeKind} (h : s.inside kind = false) :
    (s.popWhile p).inside kind = false :=
  inside_eq_false_of_suffix (dropEntries_suffix _ _) (fun _ => rfl) h

/-- Closing the innermost scope does not lead into an assembly block. -/
theorem inside_pop {kind : ScopeKind} (h : s.inside kind = false) : s.pop.inside kind = false :=
  inside_eq_false_of_suffix (popEntry_suffix _) (fun _ => rfl) h

/-- A change of the innermost scope that keeps its kind does not lead into an assembly block. -/
theorem inside_modifyCurrent {f : Scope → Scope} (hf : ∀ scope, (f scope).kind = scope.kind)
    {kind : ScopeKind} (h : s.inside kind = false) : (s.modifyCurrent f).inside kind = false := by
  have hsuffix : (s.modifyCurrent f).stack <:+ s.stack := List.suffix_refl _
  exact inside_eq_false_of_suffix hsuffix
    (apply_scopeAt_modifyAt (·.kind) s s.currentIndex hf) h

/-- Binding a brace to a waiting scope does not lead into an assembly block. -/
theorem inside_bindBrace {kind : ScopeKind} (h : s.inside kind = false) :
    s.bindBrace.inside kind = false := by
  refine inside_modifyCurrent (fun scope => ?_) h
  rfl

end ScopeStack

namespace Walk

variable {w : Walk}

/-- Inside an assembly block nothing is pending, and no header of an assembly block is announced. -/
structure IsTight (w : Walk) : Prop where
  /-- No header is one of an assembly block. -/
  header : w.pendingHeader ≠ some .asm
  /-- Inside an assembly block nothing is pending. -/
  inAsm : w.scopes.inside .asm = true → w.InAsm

/-- Nothing is pending inside an assembly block. -/
theorem InAsm.isTight (hw : w.InAsm) : w.IsTight :=
  ⟨by simp [hw.header], fun _ => hw⟩

/-- Outside assembly blocks the announced header counts only. -/
theorem IsTight.of_outside (hheader : w.pendingHeader ≠ some .asm)
    (houtside : w.scopes.inside .asm = false) : w.IsTight :=
  ⟨hheader, fun hinside => Bool.noConfusion (houtside.symm.trans hinside)⟩

/-- A walk that starts is outside assembly blocks. -/
theorem isTight_initial : IsTight {} :=
  .of_outside (by simp) rfl

/-- A closing brace inside an assembly block leads out of a plain block, or out of the assembly
block. -/
theorem InAsm.isTight_closeBrace (hw : w.InAsm) : w.closeBrace.IsTight := by
  obtain ⟨kind, outer, hshape, hkind⟩ := hw.shape.exists_eq_cons
  rcases hkind with rfl | rfl
  · have houter : outer.any (·.1 == .asm) = false := by
      have h := hw.shape
      rw [hshape] at h
      cases h with
      | asm houter => exact houter
    rw [hw.closeBrace_eq]
    by_cases hne : outer = []
    · -- The last scope is never closed.
      subst hne
      have hpop : w.scopes.pop = w.scopes := by
        obtain ⟨index, rest, hstack, _, _, hrest⟩ := ScopeStack.exists_stack_of_shape_eq_cons hshape
        obtain rfl := List.map_eq_nil_iff.mp hrest.symm
        have hentry : ScopeStack.popEntry w.scopes.stack = w.scopes.stack := by rw [hstack]; rfl
        rw [ScopeStack.pop, hentry]
      rw [hpop]
      exact hw.isTight
    · refine .of_outside (by simp [hw.header]) ?_
      rw [ScopeStack.inside_eq_any_shape, ScopeStack.shape_pop hshape hne]
      exact houter
  · exact (hw.closeBrace hshape).1.isTight

/-- The start of a block outside assembly blocks: the brace is bound to a header scope that waits,
or it opens a scope of the announced kind. -/
theorem openBlock_cases (w : Walk) (line : Nat) :
    ((w.scopes.current.awaitingBrace && !w.scopes.current.headerOpen) = true ∧
      openBrace.openBlock line w = { w with scopes := w.scopes.bindBrace, pendingBlock := none }) ∨
    ((w.scopes.current.awaitingBrace && !w.scopes.current.headerOpen) = false ∧
      openBrace.openBlock line w =
        { w with
          scopes := w.scopes.push (w.pendingBlock.getD .block) line
          pendingBlock := none }) := by
  unfold openBrace.openBlock
  split
  case isTrue hwaits => exact Or.inl ⟨hwaits, rfl⟩
  case isFalse hfree => exact Or.inr ⟨by simpa using hfree, rfl⟩

/-- Outside assembly blocks, an opening brace leads into one when it opens a block of this kind. -/
theorem isTight_openBrace (hground : w.scopes.WellFormed) (hheader : w.pendingHeader = none)
    (houtside : w.scopes.inside .asm = false) (line : Nat) : (w.openBrace line).IsTight := by
  have hne : w.pendingHeader ≠ some .asm := by simp [hheader]
  rcases openBrace_cases w line with ⟨d, _, hread⟩ | hread
  · rw [hread]
    exact .of_outside hne houtside
  rw [hread]
  rcases openBlock_cases { w with decl := none } line with ⟨_, hblock⟩ | ⟨_, hblock⟩
  · rw [hblock]
    exact .of_outside hne (ScopeStack.inside_bindBrace houtside)
  · rw [hblock]
    by_cases hkind : w.pendingBlock.getD .block = .asm
    · have hshape := ScopeStack.shape_push hground .asm line none
      rw [ScopeStack.inside_eq_any_shape] at houtside
      have hpushed : ScopeStack.IsAsmShape (w.scopes.push .asm line).shape :=
        hshape ▸ .asm houtside
      exact InAsm.isTight ⟨by rwa [hkind], rfl, hheader, rfl⟩
    · refine .of_outside hne ?_
      rw [ScopeStack.inside_push hground, houtside, Bool.or_false]
      simpa using hkind

/-- A bracket outside assembly blocks leads into one only if it opens one. -/
theorem IsTight.readMark (hw : w.IsTight) (hground : w.scopes.WellFormed) {mark : BracketMark}
    (hpending : w.pendingHeader = none ∨ mark = .opens .paren)
    (houtside : w.scopes.inside .asm = false) (line : Nat) : (w.readMark line mark).IsTight := by
  have hother : mark ≠ .opens .paren → w.pendingHeader = none := hpending.resolve_right
  cases mark with
  | opens bracket =>
    cases bracket with
    | paren =>
      rw [Walk.readMark, openParen]
      split
      case h_1 kind hkind =>
        refine .of_outside (by simp) ?_
        rw [ScopeStack.inside_push hground, houtside, Bool.or_false]
        simpa [hkind] using hw.header
      case h_2 => exact .of_outside hw.header houtside
    | square => exact .of_outside hw.header houtside
    | brace => exact isTight_openBrace hground (hother (by simp)) houtside line
  | closes bracket =>
    cases bracket with
    | paren =>
      refine .of_outside hw.header (ScopeStack.inside_modifyCurrent (fun scope => ?_) houtside)
      unfold closeHeader
      split <;> rfl
    | square => exact .of_outside hw.header houtside
    | brace =>
      rw [Walk.readMark]
      rcases closeBrace_cases w with ⟨d, _, hread⟩ | hread
      · rw [hread]
        exact .of_outside hw.header houtside
      · rw [hread]
        exact .of_outside (by simp [closeBlock])
          (ScopeStack.inside_pop (ScopeStack.inside_popWhile _ houtside))

end Walk

variable {env : Environment} {w w' : Walk} {step : WalkStep} {steps : List WalkStep}

/-- A token that is no bracket does not lead into an assembly block. -/
theorem WalkStep.isTight_of_outside (hw : step.before.IsTight) (hmark : step.token.mark? = none)
    (houtside : step.before.scopes.inside .asm = false) : (step.after env).IsTight := by
  cases hkind : step.token.kind with
  | ident =>
    have hread := Walk.readsAt_ident env step.before step.code step.prev step.token step.rest
    simp only [after, read, hkind]
    refine .of_outside (fun h => hw.header (hread.header h)) ?_
    rw [ScopeStack.inside_eq_any_shape] at houtside ⊢
    rw [hread.shape_eq, houtside]
  | number => simpa only [after, read, hkind] using hw
  | punct =>
    have hother := Token.ne_of_mark?_eq_none hkind hmark
    simp only [after, read, hkind, Walk.punct_of_ne_mark _ _ hother]
    split
    · exact .of_outside hw.header (ScopeStack.inside_popWhile _ houtside)
    split
    · exact .of_outside hw.header houtside
    split
    · exact .of_outside hw.header houtside
    · exact hw

/-- A step keeps it so that nothing is pending inside an assembly block. -/
theorem WalkStep.isTight_after (hw : step.before.IsTight) (hpending : step.OpensPending)
    (hground : step.before.scopes.Grounded) : (step.after env).IsTight := by
  cases hinside : step.before.scopes.inside .asm with
  | false =>
    cases hmark : step.token.mark? with
    | none => exact isTight_of_outside hw hmark hinside
    | some mark =>
      rw [after_of_mark env hmark]
      refine hw.readMark hground.toWellFormed (hpending.imp_right fun hparen => ?_) hinside _
      exact Option.some.inj (hmark.symm.trans hparen)
  | true =>
    have hasm := hw.inAsm hinside
    by_cases hopens : step.token.mark? = some (.opens .brace)
    · rw [after_of_mark env hopens]
      exact (hasm.openBrace hground.toWellFormed _).1.isTight
    by_cases hcloses : step.token.mark? = some (.closes .brace)
    · rw [after_of_mark env hcloses]
      exact hasm.isTight_closeBrace
    · exact (inAsm_after env hasm hopens hcloses).1.isTight

/-- In every state of a walk, nothing is pending inside an assembly block. -/
theorem isTight_of_isRun (hrun : IsRun env w steps w')
    (hpending : ∀ step ∈ steps, step.OpensPending) (hground : w.scopes.Grounded)
    (hw : w.IsTight) : w'.IsTight := by
  induction steps generalizing w with
  | nil =>
    obtain rfl : w = w' := hrun
    exact hw
  | cons step steps ih =>
    obtain ⟨rfl, hrun⟩ := hrun
    obtain ⟨hfirst, hpending⟩ := List.forall_mem_cons.mp hpending
    exact ih hrun hpending (step.grounded_after env hground)
      (WalkStep.isTight_after hw hfirst hground)

/-- The token stands behind a point or an arrow. -/
def WalkStep.readsMember (step : WalkStep) : Bool :=
  step.prev.any fun p => p.text == "." || p.text == "->"

/-- The innermost scope is a header scope that waits for the brace of its body, with its parentheses
closed. -/
def WalkStep.findsHeader (step : WalkStep) : Bool :=
  step.before.scopes.current.awaitingBrace && !step.before.scopes.current.headerOpen

/-- Outside assembly blocks, the word `asm` announces a block. -/
theorem WalkStep.after_of_asm (env : Environment) (hkind : step.token.kind = .ident)
    (htext : step.token.text = "asm") (hmember : step.readsMember = false)
    (houtside : step.before.scopes.inside .asm = false) :
    step.after env = { step.before with pendingBlock := some .asm } := by
  unfold readsMember at hmember
  simp [after, read, hkind, Walk.ident, houtside, hmember, htext]

/-- The brace behind the word `asm` leads into an assembly block when the word stands in one
already, and otherwise unless the brace starts a braced initializer or is the body of a header that
waits. -/
theorem WalkStep.inside_after_iff {word opening : WalkStep} (hkind : word.token.kind = .ident)
    (htext : word.token.text = "asm") (hmember : word.readsMember = false)
    (hnext : opening.before = word.after env) (hbrace : opening.token.mark? = some (.opens .brace))
    (hword : word.before.IsTight) (hground : word.before.scopes.WellFormed) :
    (opening.after env).scopes.inside .asm = true ↔ word.before.scopes.inside .asm = true ∨
      opening.opensInitializer = false ∧ opening.findsHeader = false := by
  have hread : opening.after env = opening.before.openBrace opening.code.number :=
    WalkStep.after_of_mark env hbrace
  cases hinside : word.before.scopes.inside .asm with
  | true =>
    rw [WalkStep.after_of_inside hkind hinside] at hnext
    rw [hread, hnext]
    have hasm := ((hword.inAsm hinside).openBrace hground opening.code.number).1
    simp [hasm.shape.inside]
  | false =>
    have hannounced := WalkStep.after_of_asm env hkind htext hmember hinside
    rw [hannounced] at hnext
    have hscopes : opening.before.scopes = word.before.scopes := by rw [hnext]
    have hblock : opening.before.pendingBlock = some .asm := by rw [hnext]
    simp only [Bool.false_eq_true, false_or]
    cases hinit : opening.opensInitializer with
    | true =>
      obtain ⟨d, hdecl, hd⟩ := Option.any_eq_true _ _ |>.mp hinit
      have hsame : (opening.after env).scopes = word.before.scopes := by
        rw [hread]
        simp [Walk.openBrace, hdecl, hd, hscopes]
      simp [hsame, hinside]
    | false =>
      rw [hread, Walk.openBrace_eq_openBlock _ _ hinit]
      rcases Walk.openBlock_cases { opening.before with decl := none } opening.code.number with
        ⟨hfinds, hopened⟩ | ⟨hfinds, hopened⟩
      · have hfinds' : opening.findsHeader = true := hfinds
        rw [hopened, hfinds']
        rw [← hscopes] at hinside
        simp [ScopeStack.inside_bindBrace hinside]
      · have hfinds' : opening.findsHeader = false := hfinds
        rw [hopened, hfinds']
        simp [hblock, hscopes, ScopeStack.inside_push hground]

end BrickLint
