import BrickLint.Proofs.KnownFunction
import BrickLint.Proofs.BraceScope.OpenScopes

/-!
# Places of findings and calls

Whatever a step of a walk finds, and the call that it may note, stands at the token of the step. So
what a walk has found between two places comes from the steps between them. An identifier opens and
closes no scope.
-/

namespace BrickLint

namespace ScopeStack

/-- What is seen of the open scopes, innermost first: the kind of each, and whether it waits for the
brace of its body. -/
def shape (s : ScopeStack) : List (ScopeKind × Bool) :=
  s.stack.map fun index => ((s.scopeAt index).kind, (s.scopeAt index).awaitingBrace)

variable {s : ScopeStack}

/-- What a change of one scope keeps is kept in all scopes. -/
theorem apply_scopeAt_modifyAt {α : Type} (g : Scope → α) (s : ScopeStack) (index : Nat)
    {f : Scope → Scope} (hf : ∀ scope, g (f scope) = g scope) (other : Nat) :
    g ((s.modifyAt index f).scopeAt other) = g (s.scopeAt other) := by
  by_cases hother : index = other
  · subst hother
    by_cases hindex : index < s.arena.length
    · rw [scopeAt_modifyAt_self hindex, hf]
    · simp [modifyAt, scopeAt, hindex]
  · rw [scopeAt_modifyAt_ne s hother]

/-- A change of one scope that keeps its kind and its waiting keeps the shape. -/
theorem shape_modifyAt (s : ScopeStack) (index : Nat) {f : Scope → Scope}
    (hf : ∀ scope, ((f scope).kind, (f scope).awaitingBrace) = (scope.kind, scope.awaitingBrace)) :
    (s.modifyAt index f).shape = s.shape :=
  List.map_congr_left fun other _ =>
    apply_scopeAt_modifyAt (fun scope => (scope.kind, scope.awaitingBrace)) s index hf other

/-- A use of a name keeps the shape. -/
@[simp] theorem shape_use (s : ScopeStack) (name : String) : (s.use name).shape = s.shape := by
  unfold use
  split
  · exact shape_modifyAt s _ fun _ => rfl
  · rfl

/-- Declaring a variable keeps the shape. -/
@[simp] theorem shape_declare (s : ScopeStack) (v : Variable) : (s.declare v).shape = s.shape :=
  shape_modifyAt s _ fun _ => rfl

/-- A new scope is the innermost one. -/
theorem shape_push (hs : s.WellFormed) (kind : ScopeKind) (line : Int) (headerDepth : Option Int) :
    (s.push kind line headerDepth).shape = (kind, headerDepth.isSome) :: s.shape := by
  have hnew : (s.push kind line headerDepth).scopeAt s.arena.length = _ := current_enter s _
  change (s.arena.length :: s.stack).map _ = _
  rw [List.map_cons, hnew]
  refine congrArg _ (List.map_congr_left fun index hindex => ?_)
  have hold : (s.push kind line headerDepth).scopeAt index = s.scopeAt index :=
    scopeAt_enter (hs.lt_length index hindex) _
  rw [hold]

end ScopeStack

namespace Walk

/-- What is new among the findings and the calls of a walk stands at one place. -/
structure AddsAt (line column : Nat) (w w' : Walk) : Prop where
  /-- New findings stand there. -/
  findings : ∀ f ∈ w'.findings, f ∈ w.findings ∨ f.line = line ∧ f.column = column
  /-- A new call stands there. -/
  calls : ∀ call ∈ w'.calls, call ∈ w.calls ∨ call.line = line ∧ call.column = column

/-- What an identifier at a place does: it opens and closes no scope, and it announces no header of
an assembly block. -/
structure ReadsAt (line column : Nat) (w w' : Walk) : Prop extends AddsAt line column w w' where
  /-- The open scopes look the same. -/
  shape_eq : w'.scopes.shape = w.scopes.shape
  /-- No header of an assembly block is announced. -/
  header : w'.pendingHeader = some .asm → w.pendingHeader = some .asm

variable {line column : Nat} {w w' : Walk}

/-- Nothing is new where findings and calls stay. -/
theorem AddsAt.of_eq (hfindings : w'.findings = w.findings) (hcalls : w'.calls = w.calls) :
    AddsAt line column w w' :=
  ⟨fun _ hf => Or.inl (hfindings ▸ hf), fun _ hcall => Or.inl (hcalls ▸ hcall)⟩

/-- Only the open declaration and the pending block may change. -/
theorem ReadsAt.of_eq (hfindings : w'.findings = w.findings) (hcalls : w'.calls = w.calls)
    (hscopes : w'.scopes = w.scopes) (hheader : w'.pendingHeader = w.pendingHeader) :
    ReadsAt line column w w' :=
  ⟨.of_eq hfindings hcalls, by rw [hscopes], fun h => hheader ▸ h⟩

/-- A finding at the place is added. -/
theorem ReadsAt.report (h : ReadsAt line column w w') {f : Finding} (hline : f.line = line)
    (hcolumn : f.column = column) : ReadsAt line column w (w'.report f) where
  findings g hg := by
    rcases List.mem_append.mp hg with hbefore | hnew
    · exact h.findings g hbefore
    · rw [List.mem_singleton.mp hnew]
      exact Or.inr ⟨hline, hcolumn⟩
  calls := h.calls
  shape_eq := h.shape_eq
  header := h.header

/-- A declaration reports at the place of its variable. -/
theorem readsAt_declare (catalog : Catalog) (config : Config) (w : Walk) {v : Variable}
    (hline : v.line = line) (hcolumn : v.column = column) :
    ReadsAt line column w (w.declare catalog config v) := by
  have hdeclared : ReadsAt line column w { w with scopes := w.scopes.declare v } :=
    ⟨.of_eq rfl rfl, ScopeStack.shape_declare _ _, id⟩
  have hkept : ReadsAt line column w w := .of_eq rfl rfl rfl rfl
  unfold declare
  split
  · split
    · exact hkept
    · exact hkept.report hline hcolumn
  · dsimp only
    rcases shadowing?_cases catalog config v with hnone | ⟨cause, _, hsome⟩
    · rw [hnone]
      exact hdeclared
    · rw [hsome]
      exact hdeclared.report hline hcolumn

/-- A reference reports and notes at the place of its token. -/
theorem readsAt_reference (env : Environment) (w : Walk) (line : Nat) (prev : Option Token)
    (token : Token) (rest : List Token) :
    ReadsAt line token.column w (w.reference env line prev token rest) := by
  have hkept : ReadsAt line token.column w w := .of_eq rfl rfl rfl rfl
  unfold reference
  split
  · unfold noteCall
    split
    · exact hkept
    · refine ⟨⟨fun _ hf => Or.inl hf, fun call hcall => ?_⟩, rfl, id⟩
      rcases List.mem_append.mp hcall with hbefore | hnew
      · exact Or.inl hbefore
      · rw [List.mem_singleton.mp hnew]
        exact Or.inr ⟨rfl, rfl⟩
  split
  · exact .of_eq rfl rfl rfl rfl
  split
  · exact hkept
  · unfold resolve
    split
    · exact hkept
    split
    · exact ⟨.of_eq rfl rfl, ScopeStack.shape_use _ _, id⟩
    split
    · exact hkept
    · exact hkept.report rfl rfl

/-- The next name of a declaration is declared at its place. -/
theorem readsAt_declarator (env : Environment) (w : Walk) (d : OpenDeclaration) (code : CodeLine)
    (token : Token) (rest : List Token) :
    ReadsAt code.number token.column w (w.declarator env d code token rest) := by
  unfold declarator
  split
  · exact ⟨.of_eq rfl rfl, rfl, fun h => by cases h⟩
  split
  · exact .of_eq rfl rfl rfl rfl
  · obtain ⟨hadds, hshape, hheader⟩ := readsAt_declare env.catalog env.config w
      (v := ⟨token.text, code.number, token.column, code.path, d.isParameter, false⟩) rfl rfl
    exact ⟨⟨hadds.findings, hadds.calls⟩, hshape, hheader⟩

/-- An identifier that is neither a tag nor a qualifier is read at its place. -/
theorem readsAt_name (env : Environment) (w : Walk) (code : CodeLine) (prev : Option Token)
    (token : Token) (rest : List Token) :
    ReadsAt code.number token.column w (w.name env code prev token rest) := by
  have hreference := readsAt_reference env w code.number prev token rest
  unfold name
  split
  · split <;> exact .of_eq rfl rfl rfl rfl
  split
  · exact .of_eq rfl rfl rfl rfl
  split
  · split
    · exact readsAt_declarator env w _ code token rest
    · exact hreference
  · exact hreference

/-- An identifier is read at its place. -/
theorem readsAt_ident (env : Environment) (w : Walk) (code : CodeLine) (prev : Option Token)
    (token : Token) (rest : List Token) :
    ReadsAt code.number token.column w (w.ident env code prev token rest).1 := by
  have hkept : ReadsAt code.number token.column w w := .of_eq rfl rfl rfl rfl
  unfold ident
  split
  · exact hkept
  split
  · exact hkept
  split
  · exact .of_eq rfl rfl rfl rfl
  split
  · unfold tag
    split <;> exact .of_eq rfl rfl rfl rfl
  split
  · exact hkept
  split
  · exact hkept
  split
  · exact ⟨.of_eq rfl rfl, rfl, fun h => by cases h⟩
  · exact readsAt_name env w code prev token rest

/-- Punctuation notes no calls. -/
theorem calls_punct (w : Walk) (line : Nat) (text : String) :
    (w.punct line text).calls = w.calls := by
  have hblock : ∀ w : Walk, (openBrace.openBlock line w).calls = w.calls := by
    intro w
    unfold openBrace.openBlock
    split <;> rfl
  unfold punct
  split
  · unfold openParen
    split <;> rfl
  split
  · rfl
  split
  · rfl
  split
  · rfl
  split
  · unfold openBrace
    split
    · split
      · rfl
      · exact hblock _
    · exact hblock _
  split
  · unfold closeBrace
    split
    · split <;> rfl
    · rfl
  split
  · rfl
  split
  · rfl
  split <;> rfl

end Walk

/-- A step finds and notes something at its own place only. -/
theorem WalkStep.addsAt (env : Environment) (step : WalkStep) :
    step.before.AddsAt step.code.number step.token.column (step.after env) := by
  unfold WalkStep.after WalkStep.read
  split
  · exact .of_eq (Walk.findings_punct _ _ _) (Walk.calls_punct _ _ _)
  · exact .of_eq rfl rfl
  · exact (Walk.readsAt_ident env step.before step.code step.prev step.token step.rest).toAddsAt

/-- The step changes neither the findings nor the calls. -/
def WalkStep.IsSilent (env : Environment) (step : WalkStep) : Prop :=
  (step.after env).findings = step.before.findings ∧ (step.after env).calls = step.before.calls

/-- What a walk has collected at the end of some steps was there before them, or one of the steps
has collected it. -/
theorem exists_step_of_mem {α : Type} (collected : Walk → List α) {env : Environment} {w w' : Walk}
    {steps : List WalkStep} (hrun : IsRun env w steps w') {a : α} (ha : a ∈ collected w') :
    a ∈ collected w ∨
      ∃ step ∈ steps, a ∉ collected step.before ∧ a ∈ collected (step.after env) := by
  induction steps generalizing w with
  | nil =>
    obtain rfl : w = w' := hrun
    exact Or.inl ha
  | cons step steps ih =>
    obtain ⟨rfl, hrun⟩ := hrun
    rcases ih hrun with hfirst | ⟨later, hlater, hcollects⟩
    · by_cases hbefore : a ∈ collected step.before
      · exact Or.inl hbefore
      · exact Or.inr ⟨step, List.mem_cons_self, hbefore, hfirst⟩
    · exact Or.inr ⟨later, List.mem_cons_of_mem _ hlater, hcollects⟩

variable {catalog : Catalog} {config : Config} {text : List Char}

/-- What the walk over a source finds stands at a step that is not silent. -/
theorem exists_step_of_mem_findings {f : Finding}
    (hf : f ∈ (checkDeclarations catalog config text).walk.findings) :
    ∃ step ∈ walkTrace catalog config text, ¬step.IsSilent (environmentOf catalog config text) ∧
      f.line = step.code.number ∧ f.column = step.token.column := by
  obtain ⟨step, hstep, hbefore, hafter⟩ := (exists_step_of_mem Walk.findings
    (isRun_walkTrace catalog config text) hf).resolve_left List.not_mem_nil
  have hloud : ¬step.IsSilent (environmentOf catalog config text) :=
    fun hsilent => hbefore (hsilent.1 ▸ hafter)
  exact ⟨step, hstep, hloud, ((step.addsAt _).findings f hafter).resolve_left hbefore⟩

/-- A call that the walk over a source notes stands at a step that is not silent. -/
theorem exists_step_of_mem_calls {call : Call}
    (hcall : call ∈ (checkDeclarations catalog config text).walk.calls) :
    ∃ step ∈ walkTrace catalog config text, ¬step.IsSilent (environmentOf catalog config text) ∧
      call.line = step.code.number ∧ call.column = step.token.column := by
  obtain ⟨step, hstep, hbefore, hafter⟩ := (exists_step_of_mem Walk.calls
    (isRun_walkTrace catalog config text) hcall).resolve_left List.not_mem_nil
  have hloud : ¬step.IsSilent (environmentOf catalog config text) :=
    fun hsilent => hbefore (hsilent.2 ▸ hafter)
  exact ⟨step, hstep, hloud, ((step.addsAt _).calls call hafter).resolve_left hbefore⟩

end BrickLint
