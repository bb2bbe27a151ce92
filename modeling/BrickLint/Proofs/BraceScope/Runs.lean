import BrickLint.Proofs.BraceScope.Braces

/-!
# Steps between brackets

What some steps of a walk do is found by following the brackets that they read. A header is opened
by the parenthesis behind the token that announces it. The open brackets of a declaration are among
the brackets that are open, and as long as nothing interrupts an initializer, its brackets stay open
until they are closed, and no scope is opened or closed.
-/

namespace BrickLint

open Text

/-- A parenthesis is a bracket. -/
theorem mark?_of_text_eq_paren {cs : List Char} {skip column : Nat} {token : Token}
    (h : token ∈ tokensFrom skip column cs) (htext : token.text = "(") :
    token.mark? = some (.opens .paren) := by
  induction cs generalizing skip column with
  | nil => simp [tokensFrom] at h
  | cons c cs ih =>
    cases skip with
    | succ remaining => exact ih h
    | zero =>
      by_cases hblank : isBlank c = true
      · exact ih (by simpa [tokensFrom, hblank] using h)
      · simp only [tokensFrom, hblank, Bool.false_eq_true, if_false] at h
        rcases List.mem_cons.mp h with rfl | hlater
        · have hchars : (lexeme c cs).2 = ['('] := by
            rw [← String.toList_ofList (l := (lexeme c cs).2)]
            exact congrArg String.toList htext
          have hc : '(' = c := by
            have hhead := head?_lexeme c cs
            rw [hchars] at hhead
            exact Option.some.inj hhead
          subst hc
          exact mark?_lexeme '(' cs column
        · exact ih hlater

/-- No header is announced, or the token is the parenthesis that opens it. -/
def WalkStep.OpensPending (step : WalkStep) : Prop :=
  step.before.pendingHeader = none ∨ step.token.mark? = some (.opens .paren)

/-- A bracket announces no header, and a parenthesis opens the one that is announced. -/
theorem Walk.pendingHeader_readMark {w : Walk} {mark : BracketMark}
    (h : w.pendingHeader = none ∨ mark = .opens .paren) (line : Nat) :
    (w.readMark line mark).pendingHeader = none := by
  have hother : mark ≠ .opens .paren → w.pendingHeader = none := fun hne => h.resolve_right hne
  cases mark with
  | opens bracket =>
    cases bracket with
    | paren =>
      rw [Walk.readMark, Walk.openParen]
      split
      · rfl
      case h_2 hpending => exact hpending
    | square => exact hother (by simp)
    | brace =>
      have hpending := hother (by simp)
      rw [Walk.readMark]
      rcases Walk.openBrace_cases w line with ⟨_, _, hread⟩ | hread
      · exact hread ▸ hpending
      · rw [hread]
        unfold Walk.openBrace.openBlock
        split <;> exact hpending
  | closes bracket =>
    cases bracket with
    | paren => exact hother (by simp)
    | square => exact hother (by simp)
    | brace =>
      rw [Walk.readMark]
      rcases Walk.closeBrace_cases w with ⟨_, _, hread⟩ | hread
      · exact hread ▸ hother (by simp)
      · rw [hread]
        rfl

/-- A header is announced just before the parenthesis that opens it. -/
theorem WalkStep.pendingHeader_after (env : Environment) {step : WalkStep}
    (h : step.OpensPending) :
    (step.after env).pendingHeader = none ∨ headText? step.rest = some "(" := by
  cases hmark : step.token.mark? with
  | some mark =>
    rw [WalkStep.after_of_mark env hmark]
    refine Or.inl (Walk.pendingHeader_readMark (h.imp_right fun hparen => ?_) _)
    exact Option.some.inj (hmark.symm.trans hparen)
  | none =>
    have hbefore : step.before.pendingHeader = none := h.resolve_right (by simp [hmark])
    cases step.effect env hmark with
    | kept _ hpending => exact Or.inl (hpending.trans hbefore)
    | reset _ hpending => exact hpending.imp_left fun hsame => hsame.trans hbefore

/-- A token that is passed over is an identifier and no parenthesis, so no header is announced in
front of it. -/
theorem WalkStep.pendingHeader_after_of_skips (env : Environment) {step : WalkStep}
    (hopens : step.OpensPending) (hskips : step.skips env = true)
    (hrest : ∀ token ∈ step.rest, token.text = "(" → token.mark? = some (.opens .paren)) :
    (step.after env).pendingHeader = none := by
  refine (step.pendingHeader_after env hopens).resolve_right fun htext => ?_
  obtain ⟨next, hhead, hident⟩ := Option.any_eq_true _ _ |>.mp (headIsIdent_of_skips hskips)
  have hparen : next.text = "(" := by simpa [headText?, hhead] using htext
  have hpunct := (Token.mark?_eq_some_iff.mp (hrest next (List.mem_of_head? hhead) hparen)).1
  rw [hpunct] at hident
  cases hident

/-- In the steps of a line, a header is opened by the token behind the one that announces it. -/
theorem opensPending_trace {env : Environment} {code : CodeLine} {prev : Option Token} {w : Walk}
    {tokens : List Token}
    (htokens : ∀ token ∈ tokens, token.text = "(" → token.mark? = some (.opens .paren))
    (hw : w.pendingHeader = none ∨ headText? tokens = some "(") :
    (∀ step ∈ w.trace env code prev tokens, step.OpensPending) ∧
      ∀ w', IsRun env w (w.trace env code prev tokens) w' → w'.pendingHeader = none := by
  fun_induction Walk.trace env code prev w tokens with
  | case1 prev w =>
    refine ⟨by simp, fun w' hrun => ?_⟩
    have hend : w = w' := hrun
    exact hend ▸ hw.resolve_right (by simp [headText?])
  | case2 prev w token next rest step hskips ih =>
    obtain ⟨htoken, hrest⟩ := List.forall_mem_cons.mp htokens
    have hopens : step.OpensPending :=
      hw.imp_right fun htext => htoken (Option.some.inj htext)
    have hafter := step.pendingHeader_after_of_skips env hopens hskips hrest
    obtain ⟨hsteps, hend⟩ := ih (List.forall_mem_cons.mp hrest).2 (Or.inl hafter)
    exact ⟨List.forall_mem_cons.mpr ⟨hopens, hsteps⟩, fun w' hrun => hend w' hrun.2⟩
  | case3 prev w token rest step _ ih =>
    obtain ⟨htoken, hrest⟩ := List.forall_mem_cons.mp htokens
    have hopens : step.OpensPending :=
      hw.imp_right fun htext => htoken (Option.some.inj htext)
    obtain ⟨hsteps, hend⟩ := ih hrest (step.pendingHeader_after env hopens)
    exact ⟨List.forall_mem_cons.mpr ⟨hopens, hsteps⟩, fun w' hrun => hend w' hrun.2⟩

/-- In the steps of a source, a header is opened by the token behind the one that announces it. -/
theorem opensPending_walkTrace (catalog : Catalog) (config : Config) (text : List Char) :
    ∀ step ∈ walkTrace catalog config text, step.OpensPending := by
  have hlines : ∀ (env : Environment) (code : List CodeLine) (w : Walk), w.pendingHeader = none →
      ∀ step ∈ w.traceLines env code, step.OpensPending := by
    intro env code
    induction code with
    | nil => simp [Walk.traceLines]
    | cons line code ih =>
      intro w hw step hstep
      obtain ⟨hsteps, hend⟩ := @opensPending_trace env line none w (tokenize line.text)
        (fun token htoken => mark?_of_text_eq_paren htoken) (Or.inl hw)
      rcases List.mem_append.mp hstep with hstep | hstep
      · exact hsteps step hstep
      · exact ih _ (hend _ (isRun_trace env line none w _)) step hstep
  exact hlines _ _ {} rfl

/-- What a step does to the brackets that are open. -/
inductive StackStep (step : WalkStep) : List Bracket → List Bracket → Prop
  /-- No bracket is read. -/
  | none {stack : List Bracket} (hmark : step.token.mark? = none) : StackStep step stack stack
  /-- A bracket is opened. -/
  | opens {bracket : Bracket} {stack : List Bracket}
      (hmark : step.token.mark? = some (.opens bracket)) : StackStep step stack (bracket :: stack)
  /-- The innermost bracket is closed. -/
  | closes {bracket : Bracket} {stack : List Bracket}
      (hmark : step.token.mark? = some (.closes bracket)) : StackStep step (bracket :: stack) stack

/-- Brackets are followed step by step. -/
theorem exists_stackStep {step : WalkStep} {steps : List WalkStep} {stack stack' : List Bracket}
    (h : followMarks stack (WalkStep.marks (step :: steps)) = some stack') :
    ∃ mid, StackStep step stack mid ∧ followMarks mid (WalkStep.marks steps) = some stack' := by
  cases hmark : step.token.mark? with
  | none =>
    have hskipped : WalkStep.marks (step :: steps) = WalkStep.marks steps :=
      List.filterMap_cons_none hmark
    exact ⟨stack, .none hmark, hskipped ▸ h⟩
  | some mark =>
    have hread : WalkStep.marks (step :: steps) = mark :: WalkStep.marks steps :=
      List.filterMap_cons_some hmark
    rw [hread] at h
    cases mark with
    | opens bracket => exact ⟨bracket :: stack, .opens hmark, h⟩
    | closes bracket =>
      cases stack with
      | nil => simp [followMarks] at h
      | cons top stack =>
        by_cases htop : top = bracket
        · subst htop
          exact ⟨stack, .closes hmark, by simpa [followMarks] using h⟩
        · simp [followMarks, htop] at h

variable {env : Environment} {w w' : Walk} {steps : List WalkStep} {step : WalkStep}
  {stack stack' : List Bracket} {depth : Nat}

/-- The open brackets of a declaration are among the brackets that are open. -/
theorem StackStep.nest_le (h : StackStep step stack stack')
    (hnest : step.before.nest ≤ depth + stack.length) :
    (step.after env).nest ≤ depth + stack'.length := by
  cases h with
  | none hmark => exact Nat.le_trans (step.effect env hmark).nest_le hnest
  | @opens bracket _ hmark =>
    have hopened := step.before.nest_readMark_opens step.code.number bracket
    rw [WalkStep.after_of_mark env hmark, List.length_cons]
    omega
  | @closes bracket _ hmark =>
    have hclosed := step.before.nest_readMark_closes step.code.number bracket
    rw [WalkStep.after_of_mark env hmark]
    rw [List.length_cons] at hnest
    omega

/-- Inside an initializer, a step that does not interrupt it opens and closes no scope. -/
theorem StackStep.inInitializer (h : StackStep step stack stack')
    (hquiet : step.interrupts env = false)
    (hinit : step.before.InInitializer (depth + stack.length + 1)) :
    (step.after env).InInitializer (depth + stack'.length + 1) ∧
      step.before.scopes.SameBraces (step.after env).scopes := by
  cases h with
  | none hmark =>
    have heffect := step.effect env hmark
    rw [hquiet] at heffect
    exact hinit.effect heffect
  | opens hmark =>
    rw [WalkStep.after_of_mark env hmark]
    exact hinit.opens step.code.number _
  | closes hmark =>
    rw [WalkStep.after_of_mark env hmark]
    exact hinit.closes step.code.number _

/-- A bracket does not interrupt. -/
theorem WalkStep.mark?_of_interrupts (h : step.interrupts env = true) :
    step.token.mark? = none := by
  cases hmark : step.token.mark? with
  | none => rfl
  | some mark =>
    obtain ⟨hkind, htext⟩ := Token.mark?_eq_some_iff.mp hmark
    simp only [WalkStep.interrupts, hkind, htext] at h
    rcases mark with (_ | _ | _) | (_ | _ | _) <;> exact absurd h (by decide)

/-- The brackets of a declaration that are open after some steps are among those that were open
before or that the steps leave open. -/
theorem nest_le_of_isRun (hrun : IsRun env w steps w')
    (hmarks : followMarks stack (WalkStep.marks steps) = some stack')
    (hnest : w.nest ≤ depth + stack.length) : w'.nest ≤ depth + stack'.length := by
  induction steps generalizing w stack with
  | nil =>
    obtain rfl : stack = stack' := Option.some.inj hmarks
    obtain rfl : w = w' := hrun
    exact hnest
  | cons step steps ih =>
    obtain ⟨rfl, hrun⟩ := hrun
    obtain ⟨mid, hstep, hrest⟩ := exists_stackStep hmarks
    exact ih hrun hrest (hstep.nest_le hnest)

/-- An initializer that no step interrupts goes on, and no scope is opened or closed. -/
theorem inInitializer_of_isRun (hrun : IsRun env w steps w')
    (hmarks : followMarks stack (WalkStep.marks steps) = some stack')
    (hquiet : ∀ step ∈ steps, step.interrupts env = false)
    (hinit : w.InInitializer (depth + stack.length + 1)) :
    w'.InInitializer (depth + stack'.length + 1) ∧ w.scopes.SameBraces w'.scopes := by
  induction steps generalizing w stack with
  | nil =>
    obtain rfl : stack = stack' := Option.some.inj hmarks
    obtain rfl : w = w' := hrun
    exact ⟨hinit, .refl _⟩
  | cons step steps ih =>
    obtain ⟨rfl, hrun⟩ := hrun
    obtain ⟨mid, hstep, hrest⟩ := exists_stackStep hmarks
    obtain ⟨hfirst, hquiet⟩ := List.forall_mem_cons.mp hquiet
    obtain ⟨hafter, hsame⟩ := hstep.inInitializer hfirst hinit
    obtain ⟨hend, hscopes⟩ := ih hrun hrest hquiet hafter
    exact ⟨hend, hsame.trans hscopes⟩

/-- Behind a step that interrupts an initializer, none of its brackets is open any more. -/
theorem nest_le_of_interrupts (hrun : IsRun env w steps w')
    (hmarks : followMarks stack (WalkStep.marks steps) = some stack')
    (hinterrupts : ∃ step ∈ steps, step.interrupts env = true)
    (hinit : w.InInitializer (depth + stack.length + 1)) : w'.nest ≤ stack'.length := by
  induction steps generalizing w stack with
  | nil => simp at hinterrupts
  | cons step steps ih =>
    obtain ⟨rfl, hrun⟩ := hrun
    obtain ⟨mid, hstep, hrest⟩ := exists_stackStep hmarks
    cases hfirst : step.interrupts env with
    | true =>
      have hmark := WalkStep.mark?_of_interrupts hfirst
      have heffect := step.effect env hmark
      rw [hfirst] at heffect
      have hopen : 0 < step.before.nest := by
        obtain ⟨d, hdecl, _, hnest⟩ := hinit.decl
        simp [Walk.nest, hdecl, hnest]
      have hafter : (step.after env).nest ≤ 0 + mid.length := by
        rw [heffect.nest_eq_zero hopen]
        exact Nat.zero_le _
      have hend := nest_le_of_isRun hrun hrest hafter
      omega
    | false =>
      have hlater : ∃ step ∈ steps, step.interrupts env = true := by
        obtain ⟨found, hfound, htrue⟩ := hinterrupts
        rcases List.mem_cons.mp hfound with rfl | hfound
        · rw [hfirst] at htrue
          exact absurd htrue (by simp)
        · exact ⟨found, hfound, htrue⟩
      exact ih hrun hrest hlater (hstep.inInitializer hfirst hinit).1

/-- A step keeps the scopes grounded. -/
theorem WalkStep.grounded_after (env : Environment) (h : step.before.scopes.Grounded) :
    (step.after env).scopes.Grounded := by
  cases hmark : step.token.mark? with
  | none => exact (step.effect env hmark).grounded h
  | some mark =>
    rw [WalkStep.after_of_mark env hmark]
    exact Walk.grounded_readMark h _ mark

/-- Steps keep the scopes grounded. -/
theorem grounded_of_isRun (hrun : IsRun env w steps w') (hw : w.scopes.Grounded) :
    w'.scopes.Grounded := by
  induction steps generalizing w with
  | nil =>
    obtain rfl : w = w' := hrun
    exact hw
  | cons step steps ih =>
    obtain ⟨rfl, hrun⟩ := hrun
    exact ih hrun (step.grounded_after env hw)

end BrickLint
