import BrickLint.Proofs.BraceScope.Pairs
import BrickLint.Proofs.HeaderScope.Waiting

/-!
# The loops that close waiting scopes

A closing brace and the end of a statement close header scopes in a loop. The innermost scope is
closed as long as it waits, and closing the global scope does nothing, so such a loop would go on
forever if the global scope waited. It never does: on every text, balanced or not, the loops come to
an end, close headers only and leave the global scope open. A header is opened by the token behind
the one that announces it, and the counters of open brackets never fall below zero.
-/

namespace BrickLint

open Text

namespace ScopeStack

/-- A loop that closes the innermost scope as long as it has a property comes to an end: the scopes
that it closes, in order, and the stack that it leaves. A loop that goes on forever ends nowhere. -/
inductive LoopEnds (p : Scope → Bool) : ScopeStack → List Scope → ScopeStack → Prop
  /-- The innermost scope stays. -/
  | stop (s : ScopeStack) (hstop : p s.current = false) : LoopEnds p s [] s
  /-- The innermost scope is closed, and the loop goes on. -/
  | close (s t : ScopeStack) (closed : List Scope) (hclose : p s.current = true)
    (hrest : LoopEnds p s.pop closed t) : LoopEnds p s (s.current :: closed) t

variable {p : Scope → Bool} {s t : ScopeStack} {closed : List Scope}

/-- A loop closes scopes of the arena that have the property. -/
theorem LoopEnds.of_mem (h : LoopEnds p s closed t) (hlength : ∀ i ∈ s.stack, i < s.arena.length)
    (hne : s.stack ≠ []) : ∀ scope ∈ closed, scope ∈ s.arena ∧ p scope = true := by
  induction h with
  | stop s hstop => simp
  | close s t closed hclose hrest ih =>
    obtain ⟨index, rest, hstack⟩ := List.exists_cons_of_ne_nil hne
    have hindex : index < s.arena.length := hlength index (by simp [hstack])
    have hcurrent : s.current ∈ s.arena := by
      rw [current, currentIndex, hstack, List.head?_cons, Option.getD_some,
        scopeAt_of_getElem? (List.getElem?_eq_getElem hindex)]
      exact List.getElem_mem hindex
    refine List.forall_mem_cons.mpr ⟨⟨hcurrent, hclose⟩, ih ?_ (popEntry_ne_nil hne)⟩
    exact fun i hi => hlength i ((popEntry_suffix s.stack).subset hi)

/-- A loop that would not close the global scope comes to an end. -/
theorem exists_loopEnds (hground : s.stack.getLast? = some 0) (hstop : p (s.scopeAt 0) = false) :
    ∃ closed, LoopEnds p s closed (s.popWhile p) := by
  obtain ⟨arena, stack⟩ := s
  induction stack with
  | nil => simp at hground
  | cons index stack ih =>
    cases stack with
    | nil =>
      -- Only the global scope is open, and it stays.
      obtain rfl : index = 0 := by simpa using hground
      exact ⟨[], .stop _ hstop⟩
    | cons outer stack =>
      have houter : (outer :: stack).getLast? = some 0 := by
        rwa [List.getLast?_cons_cons] at hground
      obtain ⟨closed, hclosed⟩ := ih houter hstop
      by_cases hclose : p ((⟨arena, index :: outer :: stack⟩ : ScopeStack).scopeAt index) = true
      · have hpop : (⟨arena, index :: outer :: stack⟩ : ScopeStack).popWhile p =
            (⟨arena, outer :: stack⟩ : ScopeStack).popWhile p := by
          simp only [popWhile, dropEntries, hclose, if_true]
          rfl
        exact ⟨_, .close _ _ closed hclose (hpop ▸ hclosed)⟩
      · have hstay : (⟨arena, index :: outer :: stack⟩ : ScopeStack).popWhile p =
            ⟨arena, index :: outer :: stack⟩ := by
          simp only [popWhile, dropEntries, hclose, if_false, Bool.false_eq_true]
        rw [hstay]
        exact ⟨[], .stop _ (Bool.eq_false_iff.mpr hclose)⟩

/-- The global scope lies at the bottom of a stack that is grounded. -/
theorem Grounded.getLast?_stack (hs : s.Grounded) : s.stack.getLast? = some 0 := by
  have hground := hs.ground
  rw [openScopes, List.getLast?_map, Option.map_eq_some_iff] at hground
  obtain ⟨index, hindex, hentry⟩ := hground
  rw [hindex, (Prod.mk.inj hentry).1]

/-- A loop ends, closes only headers that wait for a brace, and leaves the global scope open. -/
structure ClosesHeaders (p : Scope → Bool) (s : ScopeStack) (closed : List Scope)
    (t : ScopeStack) : Prop where
  /-- The loop comes to an end. -/
  ends : LoopEnds p s closed t
  /-- What it closes are headers of functions and counting loops that wait for a brace. -/
  headers : ∀ scope ∈ closed, scope ∈ s.arena ∧ scope.awaitingBrace = true ∧
    (scope.kind = .function ∨ scope.kind = .forLoop)
  /-- The global scope is left at the bottom. -/
  ground : t.stack.getLast? = some 0

/-- A loop over scopes that wait for a brace ends where `popWhile` does. -/
theorem Grounded.exists_closesHeaders (hs : s.Grounded) (hwaits : s.WaitsForBraces)
    (hp : ∀ scope, p scope = true → scope.awaitingBrace = true) :
    ∃ closed, ClosesHeaders p s closed (s.popWhile p) := by
  obtain ⟨global, hglobal⟩ : ∃ global, s.arena[0]? = some global :=
    ⟨_, List.getElem?_eq_getElem hwaits.arena_pos⟩
  have hstop : p (s.scopeAt 0) = false := by
    rw [scopeAt_of_getElem? hglobal, Bool.eq_false_iff]
    intro hclose
    have hstays := ((hwaits.waits 0 global hglobal).global rfl).2.1
    exact absurd ((hp _ hclose).symm.trans hstays) (by decide)
  obtain ⟨closed, hends⟩ := exists_loopEnds hs.getLast?_stack hstop
  refine ⟨closed, hends, fun scope hscope => ?_, (hs.popWhile p).getLast?_stack⟩
  obtain ⟨hmem, hclose⟩ := hends.of_mem hs.lt_length hs.stack_ne_nil scope hscope
  obtain ⟨index, hindex⟩ := List.getElem?_of_mem hmem
  have hawaiting := hp scope hclose
  exact ⟨hmem, hawaiting, (hwaits.waits index scope hindex).header hawaiting⟩

end ScopeStack

/-- The brackets that are open, counted in signed numbers: all parentheses, and the brackets of the
open declaration. -/
structure BracketCounts where
  /-- How many parentheses are open. -/
  parens : Int
  /-- How many brackets of the open declaration are open; none when no declaration is. -/
  nest : Int

/-- Counts the brackets behind a token. Parentheses that close nothing are not counted, and a
bracket of a declaration is counted down only when one is open. -/
def BracketCounts.read (env : Environment) (counts : BracketCounts) (step : WalkStep) :
    BracketCounts :=
  let declares := step.before.decl.isSome
  let initializes := step.before.decl.any (·.inInitializer)
  match step.token.mark? with
  | some (.opens .paren) =>
    ⟨counts.parens + 1,
      if declares && step.before.pendingHeader.isNone then counts.nest + 1 else counts.nest⟩
  | some (.closes .paren) =>
    ⟨max 0 (counts.parens - 1), if 0 < counts.nest then counts.nest - 1 else 0⟩
  | some (.opens .square) =>
    { counts with nest := if declares then counts.nest + 1 else counts.nest }
  | some (.closes .square) =>
    { counts with nest := if 0 < counts.nest then counts.nest - 1 else counts.nest }
  | some (.opens .brace) =>
    { counts with nest := if initializes then counts.nest + 1 else 0 }
  | some (.closes .brace) =>
    { counts with nest := if initializes && 0 < counts.nest then counts.nest - 1 else 0 }
  | none =>
    { counts with nest := if (step.after env).decl = step.before.decl then counts.nest else 0 }

/-- How many brackets of the open declaration are open, as a signed number. -/
def signedNest (decl : Option OpenDeclaration) : Int :=
  (decl.elim 0 (·.nest) : Nat)

/-- The counters of a walk as signed numbers. -/
def Walk.counts (w : Walk) : BracketCounts :=
  ⟨w.parens, signedNest w.decl⟩

variable {env : Environment} {step : WalkStep} {steps : List WalkStep} {w w' : Walk}

/-- Opening a bracket of a declaration counts it. -/
theorem signedNest_openBracket (decl : Option OpenDeclaration) :
    signedNest (decl.map (·.openBracket)) =
      if decl.isSome then signedNest decl + 1 else signedNest decl := by
  cases decl with
  | none => rfl
  | some d => simp [signedNest, OpenDeclaration.openBracket]

/-- Closing a bracket of a declaration counts it down, if one is open. -/
theorem signedNest_closeBracket (decl : Option OpenDeclaration) :
    signedNest (decl.map (·.closeBracket)) =
      if 0 < signedNest decl then signedNest decl - 1 else signedNest decl := by
  cases decl with
  | none => rfl
  | some d =>
    by_cases hnest : 0 < d.nest
    · have hdown : ((d.nest - 1 : Nat) : Int) = (d.nest : Int) - 1 := by omega
      simp [signedNest, OpenDeclaration.closeBracket, hnest, hdown]
    · simp [signedNest, OpenDeclaration.closeBracket, Nat.eq_zero_of_not_pos hnest]

/-- Closing a parenthesis counts a bracket of a declaration down, or ends the declaration. -/
theorem signedNest_closeParen (decl : Option OpenDeclaration) :
    signedNest (decl.bind (·.closeParen)) =
      if 0 < signedNest decl then signedNest decl - 1 else 0 := by
  cases decl with
  | none => rfl
  | some d =>
    by_cases hnest : 0 < d.nest
    · have hdown : ((d.nest - 1 : Nat) : Int) = (d.nest : Int) - 1 := by omega
      simp [signedNest, OpenDeclaration.closeParen, OpenDeclaration.closeBracket, hnest, hdown]
    · simp [signedNest, OpenDeclaration.closeParen, hnest]

namespace Walk

/-- The counters behind an opening parenthesis. -/
theorem counts_openParen (w : Walk) (line : Nat) :
    (w.openParen line).counts =
      ⟨w.parens + 1,
        if w.decl.isSome && w.pendingHeader.isNone then signedNest w.decl + 1
        else signedNest w.decl⟩ := by
  unfold openParen
  split
  case h_1 kind hpending => simp [counts, hpending]
  case h_2 hpending => simp [counts, hpending, signedNest_openBracket]

/-- The counters behind a closing parenthesis. -/
theorem counts_closeParen (w : Walk) :
    w.closeParen.counts =
      ⟨max 0 (w.parens - 1), if 0 < signedNest w.decl then signedNest w.decl - 1 else 0⟩ := by
  have hparens : ((w.parens - 1 : Nat) : Int) = max 0 ((w.parens : Int) - 1) := by omega
  rw [counts, closeParen, signedNest_closeParen, hparens]

/-- The counters behind an opening brace. -/
theorem counts_openBrace (w : Walk) (line : Nat) :
    (w.openBrace line).counts =
      ⟨w.parens, if w.decl.any (·.inInitializer) then signedNest w.decl + 1 else 0⟩ := by
  by_cases hinit : w.decl.any (·.inInitializer) = true
  · obtain ⟨d, hdecl, hd⟩ := Option.any_eq_true _ _ |>.mp hinit
    simp [openBrace, counts, hdecl, hd, signedNest, OpenDeclaration.openBracket]
  · rw [Bool.not_eq_true] at hinit
    rw [openBrace_eq_openBlock w line hinit, hinit]
    unfold openBrace.openBlock
    split <;> rfl

/-- The counters behind a closing brace. -/
theorem counts_closeBrace (w : Walk) :
    w.closeBrace.counts =
      ⟨w.parens, if w.decl.any (·.inInitializer) && 0 < signedNest w.decl
        then signedNest w.decl - 1 else 0⟩ := by
  have hblock : w.closeBlock.counts = ⟨w.parens, 0⟩ := by
    have hnest := nest_closeBlock w
    rw [nest] at hnest
    rw [counts, signedNest, hnest]
    rfl
  unfold closeBrace
  split
  case h_1 d hdecl =>
    have hguard : (w.decl.any (·.inInitializer) && decide (0 < signedNest w.decl)) =
        (d.inInitializer && decide (0 < d.nest)) := by
      simp [hdecl, signedNest]
    rw [hguard]
    split
    case isTrue hclose =>
      have hnest : 0 < d.nest := by simpa using (Bool.and_eq_true_iff.mp hclose).2
      have hdown : ((d.nest - 1 : Nat) : Int) = (d.nest : Int) - 1 := by omega
      simp [counts, hdecl, signedNest, OpenDeclaration.closeBracket, hdown]
    case isFalse => exact hblock
  case h_2 hdecl =>
    rw [hblock, hdecl]
    rfl

end Walk

/-- A token that is no bracket keeps the number of open parentheses. -/
theorem WalkStep.parens_after (env : Environment) (hmark : step.token.mark? = none) :
    (step.after env).parens = step.before.parens := by
  unfold WalkStep.after WalkStep.read
  split
  case h_1 hkind => exact (Walk.punct_of_mark?_eq_none hkind hmark _ _).2.2
  case h_2 => rfl
  case h_3 => exact (Walk.readsIdent_ident env _ _ _ _ _).parens_eq

/-- The counters of a walk are counted in signed numbers. -/
theorem WalkStep.counts_after (env : Environment) (step : WalkStep) :
    (step.after env).counts = step.before.counts.read env step := by
  cases hmark : step.token.mark? with
  | none =>
    have hnest : signedNest (step.after env).decl =
        if (step.after env).decl = step.before.decl then signedNest step.before.decl else 0 := by
      split
      case isTrue hsame => rw [hsame]
      case isFalse hother =>
        cases step.effect env hmark with
        | kept hdecl => exact absurd hdecl hother
        | reset hreset => exact congrArg Nat.cast hreset
    simp only [Walk.counts, BracketCounts.read, hmark, step.parens_after env hmark, hnest]
  | some mark =>
    rw [WalkStep.after_of_mark env hmark, BracketCounts.read, hmark]
    cases mark with
    | opens bracket =>
      cases bracket with
      | paren => exact step.before.counts_openParen _
      | square => exact congrArg (BracketCounts.mk _) (signedNest_openBracket _)
      | brace => exact step.before.counts_openBrace _
    | closes bracket =>
      cases bracket with
      | paren => exact step.before.counts_closeParen
      | square => exact congrArg (BracketCounts.mk _) (signedNest_closeBracket _)
      | brace => exact step.before.counts_closeBrace

/-- Along some steps the counters are counted in signed numbers. -/
theorem counts_of_isRun (hrun : IsRun env w steps w') :
    w'.counts = steps.foldl (BracketCounts.read env) w.counts := by
  induction steps generalizing w with
  | nil =>
    obtain rfl : w = w' := hrun
    rfl
  | cons step steps ih =>
    obtain ⟨rfl, hrun⟩ := hrun
    rw [ih hrun, step.counts_after env, List.foldl_cons]

/-- The steps of a line start with its first token. -/
theorem exists_trace_cons (env : Environment) (code : CodeLine) (prev : Option Token) (w : Walk)
    (token : Token) (rest : List Token) :
    ∃ more, w.trace env code prev (token :: rest) = ⟨code, prev, token, rest, w⟩ :: more := by
  unfold Walk.trace
  dsimp only
  split <;> exact ⟨_, rfl⟩

/-- In the steps of a line, the step behind one that announces a header reads the next token. -/
theorem exists_next_of_trace {env : Environment} {code : CodeLine} {prev : Option Token} {w : Walk}
    {tokens : List Token}
    (htokens : ∀ token ∈ tokens, token.text = "(" → token.mark? = some (.opens .paren))
    (hopens : ∀ step ∈ w.trace env code prev tokens, step.OpensPending)
    {pre post : List WalkStep} {step : WalkStep}
    (htrace : w.trace env code prev tokens = pre ++ step :: post) {kind : ScopeKind}
    (hannounced : (step.after env).pendingHeader = some kind) :
    ∃ next more, post = next :: more ∧ step.rest = next.token :: next.rest := by
  have hnext : step.OpensPending → headText? step.rest = some "(" := fun hpending =>
    (step.pendingHeader_after env hpending).resolve_left (by simp [hannounced])
  fun_induction Walk.trace env code prev w tokens generalizing pre with
  | case1 prev w => simp at htrace
  | case2 prev w token skipped rest first hskips ih =>
    obtain ⟨hfirst, hlater⟩ := List.forall_mem_cons.mp hopens
    obtain ⟨_, hrest⟩ := List.forall_mem_cons.mp htokens
    cases pre with
    | nil =>
      obtain ⟨rfl, rfl⟩ := List.cons_eq_cons.mp htrace
      have hafter := first.pendingHeader_after_of_skips env hfirst hskips hrest
      rw [hafter] at hannounced
      cases hannounced
    | cons _ pre =>
      exact ih (List.forall_mem_cons.mp hrest).2 hlater (List.cons_eq_cons.mp htrace).2
  | case3 prev w token rest first _ ih =>
    obtain ⟨hfirst, hlater⟩ := List.forall_mem_cons.mp hopens
    obtain ⟨_, hrest⟩ := List.forall_mem_cons.mp htokens
    cases pre with
    | nil =>
      obtain ⟨rfl, rfl⟩ := List.cons_eq_cons.mp htrace
      cases rest with
      | nil => exact absurd (hnext hfirst) (by simp [headText?, first])
      | cons head rest =>
        obtain ⟨more, hmore⟩ :=
          exists_trace_cons env code (some token) (first.after env) head rest
        exact ⟨_, more, hmore, rfl⟩
    | cons _ pre => exact ih hrest hlater (List.cons_eq_cons.mp htrace).2

/-- In the steps of a source, the step behind one that announces a header reads the next token. -/
theorem exists_next_of_walkTrace {catalog : Catalog} {config : Config} {text : List Char}
    {pre post : List WalkStep}
    {step : WalkStep} (htrace : walkTrace catalog config text = pre ++ step :: post)
    {kind : ScopeKind}
    (hannounced : (step.after (environmentOf catalog config text)).pendingHeader = some kind) :
    ∃ next more, post = next :: more ∧ step.rest = next.token :: next.rest := by
  have hlines : ∀ (env : Environment) (code : List CodeLine) (w : Walk) (pre : List WalkStep),
      w.traceLines env code = pre ++ step :: post →
      (∀ step ∈ w.traceLines env code, step.OpensPending) →
      (step.after env).pendingHeader = some kind →
      ∃ next more, post = next :: more ∧ step.rest = next.token :: next.rest := by
    intro env code
    induction code with
    | nil => simp [Walk.traceLines]
    | cons line code ih =>
      intro w pre hsplit hopens hannounced
      obtain ⟨hline, hlater⟩ := List.forall_mem_append.mp hopens
      rcases List.append_eq_append_iff.mp hsplit with
        ⟨between, rfl, hbetween⟩ | ⟨front, hfront, hback⟩
      · exact ih _ between hbetween hlater hannounced
      cases front with
      | nil => exact ih _ [] (by simpa using hback.symm) hlater hannounced
      | cons head front =>
        obtain ⟨rfl, rfl⟩ := List.cons_eq_cons.mp hback
        obtain ⟨next, more, rfl, hrest⟩ := exists_next_of_trace
          (fun token htoken => mark?_of_text_eq_paren htoken) hline hfront hannounced
        exact ⟨next, _, rfl, hrest⟩
  exact hlines _ _ {} pre htrace (opensPending_walkTrace catalog config text) hannounced

/-- The token of a step opens the header that is announced. -/
structure WalkStep.OpensHeader (env : Environment) (next : WalkStep) (kind : ScopeKind) : Prop where
  /-- The token is an opening parenthesis. -/
  paren : next.token.mark? = some (.opens .paren)
  /-- It opens the scope of the header. -/
  scopes : (next.after env).scopes =
    next.before.scopes.push kind next.code.number (some next.before.parens)
  /-- The header is no longer announced. -/
  pending : (next.after env).pendingHeader = none

/-- A step that opens what is announced opens an announced header. -/
theorem WalkStep.opensHeader (env : Environment) {next : WalkStep} {kind : ScopeKind}
    (hopens : next.OpensPending) (hannounced : next.before.pendingHeader = some kind) :
    next.OpensHeader env kind := by
  have hparen : next.token.mark? = some (.opens .paren) :=
    hopens.resolve_left (by simp [hannounced])
  refine ⟨hparen, ?_, ?_⟩ <;>
    rw [WalkStep.after_of_mark env hparen, Walk.readMark, Walk.openParen, hannounced]

/-- The walk over a source comes to a state, with the steps before it and the steps behind it. -/
structure Walk.IsReached (catalog : Catalog) (config : Config) (text : List Char)
    (pre post : List WalkStep)
    (w : Walk) : Prop where
  /-- The steps are those of the walk. -/
  trace_eq : walkTrace catalog config text = pre ++ post
  /-- The steps before the state lead to it. -/
  isRun : IsRun (environmentOf catalog config text) {} pre w

/-- The walk comes to the state before each of its steps. -/
theorem WalkStep.isReached_before {catalog : Catalog} {config : Config} {text : List Char}
    {pre post : List WalkStep}
    {next : WalkStep} (htrace : walkTrace catalog config text = pre ++ next :: post) :
    next.before.IsReached catalog config text pre (next :: post) := by
  have hwalk := isRun_walkTrace catalog config text
  rw [htrace] at hwalk
  obtain ⟨_, hrun, rfl, _⟩ := isRun_append.mp hwalk
  exact ⟨htrace, hrun⟩

/-- The state after some steps, if a header is announced there: the last of these steps has
announced it. -/
theorem getLast?_of_pendingHeader {kind : ScopeKind} (hrun : IsRun env w steps w')
    (hw : w.pendingHeader = none) (hannounced : w'.pendingHeader = some kind) :
    ∃ before last, steps = before ++ [last] ∧ last.after env = w' := by
  rcases List.eq_nil_or_concat steps with rfl | ⟨before, last, rfl⟩
  · obtain rfl : w = w' := hrun
    rw [hw] at hannounced
    cases hannounced
  · rw [List.concat_eq_append] at hrun
    obtain ⟨_, _, _, hlast⟩ := isRun_append.mp hrun
    exact ⟨before, last, List.concat_eq_append, hlast⟩

/-- In every state of the walk over a source, balanced or not, the global scope does not wait, an
open header waits for its brace, the counters of open brackets are not negative, and a header that
is announced is opened by the very next token. So the loops of a closing brace and of the end of a
statement come to an end, close only headers that wait for a brace, and leave the global scope
open. -/
theorem scopeLoops_end {catalog : Catalog} {config : Config} {text : List Char}
    {pre post : List WalkStep} {w : Walk}
    (h : w.IsReached catalog config text pre post) :
    (∃ global, w.scopes.arena[0]? = some global ∧ global.kind = .global ∧
      global.awaitingBrace = false ∧ global.headerOpen = false) ∧
    (∀ scope ∈ w.scopes.arena, scope.headerOpen = true → scope.awaitingBrace = true) ∧
    (∃ counts : BracketCounts,
      counts = pre.foldl (BracketCounts.read (environmentOf catalog config text)) ⟨0, 0⟩ ∧
        w.counts = counts ∧ 0 ≤ counts.parens ∧ 0 ≤ counts.nest) ∧
    (∀ kind, w.pendingHeader = some kind → (kind = .function ∨ kind = .forLoop) ∧
      ∃ last next more, pre.getLast? = some last ∧ post = next :: more ∧ next.before = w ∧
        last.rest = next.token :: next.rest ∧
        next.OpensHeader (environmentOf catalog config text) kind) ∧
    (∃ closed left, w.scopes.ClosesHeaders (·.awaitingBrace) closed left ∧
      w.closeBlock.scopes = left.pop ∧ w.closeBlock.scopes.stack.getLast? = some 0) ∧
    ∃ closed, w.scopes.ClosesHeaders (fun scope => scope.awaitingBrace && !scope.headerOpen)
      closed w.endStatement.scopes := by
  obtain ⟨htrace, hrun⟩ := h
  have hground : w.scopes.Grounded := grounded_of_isRun hrun ScopeStack.grounded_initial
  obtain ⟨hwaits, hpending⟩ : w.AwaitsHeaders :=
    awaitsHeaders_of_isRun hrun ⟨ScopeStack.waitsForBraces_initial, by simp⟩
  have hcounts : w.counts =
      pre.foldl (BracketCounts.read (environmentOf catalog config text)) ⟨0, 0⟩ :=
        counts_of_isRun hrun
  refine ⟨?_, ?_, ⟨_, rfl, hcounts, ?_, ?_⟩, ?_, ?_, ?_⟩
  · obtain ⟨global, hglobal⟩ : ∃ global, w.scopes.arena[0]? = some global :=
      ⟨_, List.getElem?_eq_getElem hwaits.arena_pos⟩
    exact ⟨global, hglobal, (hwaits.waits 0 global hglobal).global rfl⟩
  · intro scope hscope
    obtain ⟨index, hindex⟩ := List.getElem?_of_mem hscope
    exact (hwaits.waits index scope hindex).awaiting
  · exact hcounts ▸ Int.natCast_nonneg _
  · exact hcounts ▸ Int.natCast_nonneg _
  · intro kind hannounced
    refine ⟨hpending kind hannounced, ?_⟩
    obtain ⟨before, last, rfl, rfl⟩ := getLast?_of_pendingHeader hrun rfl hannounced
    rw [List.append_assoc, List.singleton_append] at htrace
    obtain ⟨next, more, rfl, hrest⟩ := exists_next_of_walkTrace htrace hannounced
    have hwalk := isRun_walkTrace catalog config text
    rw [htrace] at hwalk
    obtain ⟨_, _, _, hnext, _⟩ := isRun_append.mp hwalk
    have hopens : next.OpensPending :=
      opensPending_walkTrace catalog config text next (by simp [htrace])
    exact ⟨last, next, more, by simp, rfl, hnext, hrest,
      next.opensHeader _ hopens (hnext ▸ hannounced)⟩
  · obtain ⟨closed, hcloses⟩ := hground.exists_closesHeaders hwaits
      (p := (·.awaitingBrace)) fun _ hp => hp
    exact ⟨closed, _, hcloses, rfl, (hground.popWhile _).pop.getLast?_stack⟩
  · exact hground.exists_closesHeaders hwaits fun _ hp => (Bool.and_eq_true_iff.mp hp).1

/-- A loop header without a body, between stray brackets. -/
def strayBrackets : List Char :=
  "\x7d)for()\x7d".toList

/-- The closing brace behind the loop header closes the header. -/
theorem scopeLoops_end_strayBrackets :
    ∃ (pre post : List WalkStep) (w : Walk) (closed : List Scope) (left : ScopeStack),
      pre.length = 5 ∧ w.IsReached typeCatalog {} strayBrackets pre post ∧
        w.scopes.ClosesHeaders (·.awaitingBrace) closed left ∧ closed ≠ [] ∧
        w.closeBlock.scopes = left.pop := by
  have hview : (((walkTrace typeCatalog {} strayBrackets).take 5).length,
      ((walkTrace typeCatalog {} strayBrackets).drop 5).map
        (·.before.scopes.current.awaitingBrace)) = (5, [true]) := by
    cbv
  obtain ⟨hlength, hview⟩ := Prod.mk.inj hview
  obtain ⟨brace, post, hdrop, hwaits, _⟩ := List.map_eq_cons_iff.mp hview
  have htrace := List.take_append_drop 5 (walkTrace typeCatalog {} strayBrackets)
  rw [hdrop] at htrace
  have hreached := WalkStep.isReached_before htrace.symm
  obtain ⟨_, _, _, _, ⟨closed, left, hcloses, hclosed, _⟩, _⟩ := scopeLoops_end hreached
  refine ⟨_, _, _, closed, left, hlength, hreached, hcloses, ?_, hclosed⟩
  rintro rfl
  cases hcloses.ends with
  | stop _ hstop => exact Bool.noConfusion (hwaits.symm.trans hstop)

end BrickLint
