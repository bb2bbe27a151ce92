import BrickLint.Bracket.Balance
import BrickLint.Proofs.BraceScope.Runs
import Mathlib

/-!
# Pairs of braces and the scope stack

A block closes the scope that its opening brace opened or was bound to. A braced initializer closes
nothing, unless a token between its braces interrupts the declaration: then its closing brace is
taken for the end of a block, and closes a scope that it did not open.
-/

namespace BrickLint

open Text

variable {env : Environment} {w w' : Walk} {steps : List WalkStep}

/-- Two steps that read matching braces, with the steps between them. -/
structure IsBracePair (opening : WalkStep) (inner : List WalkStep) (closing : WalkStep) : Prop where
  /-- The first reads an opening brace. -/
  opens : opening.token.mark? = some (.opens .brace)
  /-- The brackets between them are well nested. -/
  nested : WellNested (WalkStep.marks inner)
  /-- The second reads a closing brace. -/
  closes : closing.token.mark? = some (.closes .brace)

/-- Whether an opening brace is taken as the start of a braced initializer. -/
def WalkStep.opensInitializer (step : WalkStep) : Bool :=
  step.before.decl.any (·.inInitializer)

/-- No step between the braces of an initializer interrupts it. -/
def KeepsInitializers (env : Environment) (steps : List WalkStep) : Prop :=
  ∀ opening inner closing, opening :: (inner ++ [closing]) <:+: steps →
    IsBracePair opening inner closing → opening.opensInitializer = true →
      ∀ step ∈ inner, step.interrupts env = false

/-- The opening brace opens a scope or is bound to a header scope that waits for it, and the closing
brace closes this scope and the header scopes that wait above it, and nothing below it. -/
def ClosesItsScope (env : Environment) (opening closing : WalkStep) : Prop :=
  ∃ (index : Nat) (below : List (Nat × Bool)) (waiting : List Nat),
    (opening.before.scopes.openScopes = below ∨
      opening.before.scopes.openScopes = (index, true) :: below) ∧
    (opening.after env).scopes.openScopes = (index, false) :: below ∧
    closing.before.scopes.openScopes = waiting.map (·, true) ++ (index, false) :: below ∧
    (closing.after env).scopes.openScopes = below

variable {opening closing : WalkStep} {inner : List WalkStep}

/-- The opening brace of an initializer opens a bracket of its declaration and no scope. -/
theorem WalkStep.inInitializer_after (hmark : opening.token.mark? = some (.opens .brace))
    (hpending : opening.OpensPending) (hinit : opening.opensInitializer = true) :
    ∃ depth, (opening.after env).InInitializer (depth + 1) ∧
      opening.before.scopes.SameBraces (opening.after env).scopes := by
  obtain ⟨d, hdecl, hd⟩ := Option.any_eq_true _ _ |>.mp hinit
  have hnone : opening.before.pendingHeader = none :=
    hpending.resolve_right (by rw [hmark]; simp)
  have hbefore : opening.before.InInitializer d.nest := ⟨⟨d, hdecl, hd, rfl⟩, hnone⟩
  rw [WalkStep.after_of_mark env hmark]
  exact ⟨d.nest, hbefore.opens opening.code.number .brace⟩

/-- The braces of an initializer that no step interrupts open and close no scope. -/
theorem IsBracePair.sameBraces (hpair : IsBracePair opening inner closing)
    (hrun : IsRun env (opening.after env) inner closing.before) (hpending : opening.OpensPending)
    (hinit : opening.opensInitializer = true)
    (hquiet : ∀ step ∈ inner, step.interrupts env = false) :
    opening.before.scopes.SameBraces closing.before.scopes ∧
      closing.before.scopes.SameBraces (closing.after env).scopes := by
  obtain ⟨depth, hopened, hsame⟩ := WalkStep.inInitializer_after hpair.opens hpending hinit
  obtain ⟨hclosing, hinner⟩ := inInitializer_of_isRun hrun (hpair.nested.followMarks_eq [])
    hquiet hopened
  refine ⟨hsame.trans hinner, ?_⟩
  rw [WalkStep.after_of_mark env hpair.closes]
  exact (hclosing.closes closing.code.number .brace).2

/-- The closing brace of an initializer that a step interrupts is taken for the end of a block. -/
theorem IsBracePair.closeBlock_of_interrupts (hpair : IsBracePair opening inner closing)
    (hrun : IsRun env (opening.after env) inner closing.before) (hpending : opening.OpensPending)
    (hinit : opening.opensInitializer = true)
    (hinterrupts : ∃ step ∈ inner, step.interrupts env = true) :
    closing.after env = closing.before.closeBlock := by
  obtain ⟨depth, hopened, _⟩ := WalkStep.inInitializer_after hpair.opens hpending hinit
  have hnest := nest_le_of_interrupts hrun (hpair.nested.followMarks_eq []) hinterrupts hopened
  rw [WalkStep.after_of_mark env hpair.closes]
  exact Walk.closeBrace_eq_closeBlock (Nat.le_zero.mp hnest)

/-- The closing brace of a block closes the scope of the opening brace, if the steps between them
change nothing below it. -/
theorem IsBracePair.closesItsScope (hpair : IsBracePair opening inner closing)
    (hrun : IsRun env (opening.after env) inner closing.before)
    (hground : opening.before.scopes.Grounded) (hinit : opening.opensInitializer = false)
    (hinner : ∀ index below, (opening.after env).scopes.RestsOn ((index, false) :: below) →
      closing.before.scopes.RestsOn ((index, false) :: below)) :
    ClosesItsScope env opening closing := by
  have hafter : opening.after env = Walk.openBrace.openBlock opening.code.number
      { opening.before with decl := none } := by
    rw [WalkStep.after_of_mark env hpair.opens]
    exact Walk.openBrace_eq_openBlock _ _ hinit
  obtain ⟨index, below, hopened, hbefore⟩ := Walk.openScopes_openBlock
    (w := { opening.before with decl := none }) hground.toWellFormed opening.code.number
  rw [← hafter] at hopened
  have hbelow : below ≠ [] := by
    rintro rfl
    have hbottom := hground.ground
    rcases hbefore with hbefore | hbefore
    · rw [show opening.before.scopes.openScopes = [] from hbefore] at hbottom
      simp at hbottom
    · rw [show opening.before.scopes.openScopes = [(index, true)] from hbefore] at hbottom
      simp at hbottom
  have hrests := hinner index below ⟨[], hopened⟩
  obtain ⟨waiting, hclosing⟩ := hrests
  refine ⟨index, below, waiting, hbefore, hopened, hclosing, ?_⟩
  -- The declaration that is open at the closing brace has no open brackets, so a block ends.
  have hnest : closing.before.nest = 0 := by
    have hstart : (opening.after env).nest ≤ 0 + ([] : List Bracket).length := by
      rw [hafter, Walk.nest_openBlock _ _ rfl]
      exact Nat.zero_le _
    exact Nat.le_zero.mp (nest_le_of_isRun hrun (hpair.nested.followMarks_eq []) hstart)
  rw [WalkStep.after_of_mark env hpair.closes, Walk.readMark,
    Walk.closeBrace_eq_closeBlock hnest]
  exact ScopeStack.RestsOn.openScopes_close ⟨waiting, hclosing⟩ hbelow

/-- A part of the steps keeps its initializers. -/
theorem KeepsInitializers.of_infix {part : List WalkStep} (h : KeepsInitializers env steps)
    (hpart : part <:+: steps) : KeepsInitializers env part :=
  fun opening inner closing hwithin => h opening inner closing (hwithin.trans hpart)

/-- Steps of which none interrupts keep their initializers. -/
theorem keepsInitializers_of_forall (h : ∀ step ∈ steps, step.interrupts env = false) :
    KeepsInitializers env steps :=
  fun _ _ _ hwithin _ _ step hstep =>
    h step (hwithin.subset (List.mem_cons_of_mem _ (List.mem_append_left _ hstep)))

/-- A block leaves what the scopes before it rest on. -/
theorem ClosesItsScope.restsOn (h : ClosesItsScope env opening closing) {index : Nat}
    {below : List (Nat × Bool)}
    (hrests : opening.before.scopes.RestsOn ((index, false) :: below)) :
    (closing.after env).scopes.RestsOn ((index, false) :: below) := by
  obtain ⟨own, outer, _, hbefore, _, _, hafter⟩ := h
  obtain ⟨waiting, hopen⟩ := hrests
  rcases hbefore with hbefore | hbefore
  · exact ⟨waiting, by rw [hafter, ← hbefore, hopen]⟩
  · -- The header scope that waited for the brace is closed with it.
    rw [hbefore] at hopen
    cases waiting with
    | nil => simp at hopen
    | cons header waiting =>
      rw [List.map_cons, List.cons_append, List.cons.injEq] at hopen
      exact ⟨waiting, by rw [hafter, hopen.2]⟩

/-- Steps that read no brackets change nothing below the header scopes that wait. -/
theorem restsOn_of_marks_eq_nil (hrun : IsRun env w steps w')
    (hmarks : WalkStep.marks steps = []) {index : Nat} {below : List (Nat × Bool)}
    (hrests : w.scopes.RestsOn ((index, false) :: below)) :
    w'.scopes.RestsOn ((index, false) :: below) := by
  induction steps generalizing w with
  | nil =>
    obtain rfl : w = w' := hrun
    exact hrests
  | cons step steps ih =>
    obtain ⟨rfl, hrun⟩ := hrun
    obtain ⟨hmark, hmarks⟩ := List.forall_mem_cons.mp (List.filterMap_eq_nil_iff.mp hmarks)
    exact ih hrun (List.filterMap_eq_nil_iff.mpr hmarks) ((step.effect env hmark).restsOn hrests)

/-- Among some steps, one reads a given bracket of theirs. -/
theorem exists_step_of_marks_eq {before after : List BracketMark} {mark : BracketMark}
    (h : WalkStep.marks steps = before ++ mark :: after) :
    ∃ pre step post, steps = pre ++ step :: post ∧ WalkStep.marks pre = before ∧
      step.token.mark? = some mark ∧ WalkStep.marks post = after := by
  obtain ⟨pre, rest, hsteps, hpre, hrest⟩ := List.filterMap_eq_append_iff.mp h
  obtain ⟨plain, step, post, rfl, hplain, hmark, hpost⟩ := List.filterMap_eq_cons_iff.mp hrest
  refine ⟨pre ++ plain, step, post, by simp [hsteps], ?_, hmark, hpost⟩
  rw [WalkStep.marks, List.filterMap_append, hpre, List.filterMap_eq_nil_iff.mpr hplain,
    List.append_nil]

/-- Among some steps, two read a given pair of their brackets. -/
theorem exists_pair_of_marks_eq {before inner after : List BracketMark} {bracket : Bracket}
    (h : WalkStep.marks steps = before ++ .opens bracket :: (inner ++ .closes bracket :: after)) :
    ∃ pre opening mid closing post, steps = pre ++ opening :: (mid ++ closing :: post) ∧
      WalkStep.marks pre = before ∧ opening.token.mark? = some (.opens bracket) ∧
      WalkStep.marks mid = inner ∧ closing.token.mark? = some (.closes bracket) ∧
      WalkStep.marks post = after := by
  obtain ⟨pre, opening, rest, rfl, hpre, hopening, hrest⟩ := exists_step_of_marks_eq h
  obtain ⟨mid, closing, post, rfl, hmid, hclosing, hpost⟩ := exists_step_of_marks_eq hrest
  exact ⟨pre, opening, mid, closing, post, rfl, hpre, hopening, hmid, hclosing, hpost⟩

/-- The run through a pair of brackets, cut at the brackets. -/
theorem IsRun.cut {pre mid post : List WalkStep}
    (h : IsRun env w (pre ++ opening :: (mid ++ closing :: post)) w') :
    IsRun env w pre opening.before ∧ IsRun env (opening.after env) mid closing.before ∧
      IsRun env (closing.after env) post w' := by
  obtain ⟨_, hpre, rfl, hrest⟩ := isRun_append.mp h
  obtain ⟨_, hmid, rfl, hpost⟩ := isRun_append.mp hrest
  exact ⟨hpre, hmid, hpost⟩

/-- Steps with well nested brackets change nothing below the header scopes that wait, if no step
interrupts an initializer. -/
theorem restsOn_of_wellNested {marks : List BracketMark} (hnested : WellNested marks)
    (hmarks : WalkStep.marks steps = marks) (hrun : IsRun env w steps w')
    (hpending : ∀ step ∈ steps, step.OpensPending) (hkeeps : KeepsInitializers env steps)
    (hground : w.scopes.Grounded) {index : Nat} {below : List (Nat × Bool)}
    (hrests : w.scopes.RestsOn ((index, false) :: below)) :
    w'.scopes.RestsOn ((index, false) :: below) := by
  -- The induction follows the pairs; the steps, and what they rest on, are those of each part.
  induction hnested generalizing w w' steps index below with
  | nil => exact restsOn_of_marks_eq_nil hrun hmarks hrests
  | pair bracket hinner hrest ihinner ihrest =>
    rw [← List.nil_append (_ :: _)] at hmarks
    obtain ⟨pre, opening, mid, closing, post, rfl, hpre, hopening, hmid, hclosing, hpost⟩ :=
      exists_pair_of_marks_eq hmarks
    obtain ⟨hrunpre, hrunmid, hrunpost⟩ := hrun.cut
    have hmidpart : mid <:+: pre ++ opening :: (mid ++ closing :: post) :=
      ⟨pre ++ [opening], closing :: post, by simp⟩
    have hpostpart : post <:+: pre ++ opening :: (mid ++ closing :: post) :=
      ⟨pre ++ opening :: (mid ++ [closing]), [], by simp⟩
    have hopened := grounded_of_isRun hrunpre hground
    have hbegun := opening.grounded_after env hopened
    have hended := grounded_of_isRun hrunmid hbegun
    have hbefore := restsOn_of_marks_eq_nil hrunpre hpre hrests
    have hthrough : ∀ index below, (opening.after env).scopes.RestsOn ((index, false) :: below) →
        closing.before.scopes.RestsOn ((index, false) :: below) := fun _ _ =>
      ihinner hmid hrunmid (fun step hstep => hpending step (hmidpart.subset hstep))
        (hkeeps.of_infix hmidpart) hbegun
    have hafter : (closing.after env).scopes.RestsOn ((index, false) :: below) := by
      by_cases hbrace : bracket = .brace
      · subst hbrace
        have hpair : IsBracePair opening mid closing := ⟨hopening, hmid ▸ hinner, hclosing⟩
        cases hinit : opening.opensInitializer with
        | true =>
          have hquiet := hkeeps opening mid closing ⟨pre, post, by simp⟩ hpair hinit
          obtain ⟨hsame, hclosed⟩ :=
            hpair.sameBraces hrunmid (hpending opening (by simp)) hinit hquiet
          exact (hsame.trans hclosed).restsOn hbefore
        | false => exact (hpair.closesItsScope hrunmid hopened hinit hthrough).restsOn hbefore
      · rw [WalkStep.after_of_mark env hclosing]
        refine (Walk.restsOn_readMark hended (hthrough _ _ ?_) _ hbrace).2
        rw [WalkStep.after_of_mark env hopening]
        exact (Walk.restsOn_readMark hopened hbefore _ hbrace).1
    exact ihrest hpost hrunpost (fun step hstep => hpending step (hpostpart.subset hstep))
      (hkeeps.of_infix hpostpart) (closing.grounded_after env hended) hafter

/-- A catalog with two keywords and no other names. -/
def typeCatalog : Catalog :=
  ⟨[], [], ["void", "int"], [], "types", false⟩

/-- A function with a braced initializer that holds a number. -/
def numberInitializer : List Char :=
  "void f()\x7bint a[]=\x7b1\x7d;\x7d".toList

/-- A function with a braced initializer that holds a cast. -/
def castInitializer : List Char :=
  "void f()\x7bint a[]=\x7b(int)1\x7d;\x7d".toList

/-- What two matching braces are judged by, for one step: its bracket, whether a brace would start
an initializer, whether it interrupts one, and the scopes that are open after it. -/
def WalkStep.view (env : Environment) (step : WalkStep) :
    Option BracketMark × Bool × Bool × List (Nat × Bool) :=
  (step.token.mark?, step.opensInitializer, step.interrupts env,
    (step.after env).scopes.openScopes)

/-- Two matching braces are found among some steps by the views of a part of them. -/
theorem exists_pair_of_view {start length : Nat}
    {first last : Option BracketMark × Bool × Bool × List (Nat × Bool)}
    {between : List (Option BracketMark × Bool × Bool × List (Nat × Bool))}
    (h : ((steps.drop start).take length).map (WalkStep.view env) = first :: (between ++ [last]))
    (hfirst : first.1 = some (.opens .brace)) (hlast : last.1 = some (.closes .brace))
    (hbetween : WellNested (between.filterMap Prod.fst)) :
    ∃ opening inner closing, opening :: (inner ++ [closing]) <:+: steps ∧
      IsBracePair opening inner closing ∧ opening.view env = first ∧
      inner.map (WalkStep.view env) = between ∧ closing.view env = last := by
  obtain ⟨opening, rest, hpart, rfl, hrest⟩ := List.map_eq_cons_iff.mp h
  obtain ⟨inner, _, rfl, rfl, hend⟩ := List.map_eq_append_iff.mp hrest
  obtain ⟨closing, rfl, rfl⟩ := List.map_eq_singleton_iff.mp hend
  have hwithin := (List.take_prefix length (steps.drop start)).isInfix.trans
    (List.drop_suffix start steps).isInfix
  rw [List.filterMap_map] at hbetween
  exact ⟨opening, inner, closing, hpart ▸ hwithin, ⟨hfirst, hbetween, hlast⟩, rfl, rfl, rfl⟩

/-- The scope stack keeps step with two matching braces. An initializer leaves the open scopes as
they are, and a block closes the scope that it opened. -/
structure StaysInStep (env : Environment) (opening closing : WalkStep) : Prop where
  /-- The opening brace of an initializer opens no scope, and after the closing brace the scopes are
  open that were open before it, and before the opening brace. -/
  initializer : opening.opensInitializer = true →
    (opening.after env).scopes.openScopes = opening.before.scopes.openScopes ∧
      closing.before.scopes.openScopes = opening.before.scopes.openScopes ∧
      (closing.after env).scopes.openScopes = opening.before.scopes.openScopes
  /-- The closing brace of a block closes the scope of the opening brace. -/
  block : opening.opensInitializer = false → ClosesItsScope env opening closing

/-- In a source without directives and continued lines, the scope stack of the walk keeps step with
every pair of matching braces, if no braced initializer from the opening to the closing brace is
interrupted. The closing brace of an initializer that is interrupted is taken for the end of a
block. -/
theorem braces_match_scopes (catalog : Catalog) (config : Config) {text : List Char}
    (htext : IsPureCode text) :
    IsRun (environmentOf catalog config text) {} (walkTrace catalog config text)
        (checkDeclarations catalog config text).walk ∧
      WalkStep.marks (walkTrace catalog config text) = bracketMarks text ∧
      ∀ opening inner closing, opening :: (inner ++ [closing]) <:+: walkTrace catalog config text →
        IsBracePair opening inner closing →
          (KeepsInitializers (environmentOf catalog config text) (opening :: (inner ++ [closing])) →
            StaysInStep (environmentOf catalog config text) opening closing) ∧
          (opening.opensInitializer = true →
            (∃ step ∈ inner, step.interrupts (environmentOf catalog config text) = true) →
              closing.after (environmentOf catalog config text) = closing.before.closeBlock) := by
  refine ⟨isRun_walkTrace catalog config text, marks_walkTrace catalog config htext, ?_⟩
  intro opening inner closing hwithin hpair
  have hpendings : ∀ step ∈ opening :: (inner ++ [closing]), step.OpensPending :=
    fun step hstep => opensPending_walkTrace catalog config text step (hwithin.subset hstep)
  have hpending := hpendings opening List.mem_cons_self
  obtain ⟨pre, post, htrace⟩ := hwithin
  have hwalk := isRun_walkTrace catalog config text
  rw [← htrace, List.append_assoc, List.cons_append, List.append_assoc, List.singleton_append]
    at hwalk
  obtain ⟨hbefore, hrun, _⟩ := hwalk.cut
  have hground := grounded_of_isRun hbefore ScopeStack.grounded_initial
  refine ⟨fun hkeeps => ⟨fun hinit => ?_, fun hblock => ?_⟩, fun hinit hinterrupts => ?_⟩
  · have hquiet := hkeeps opening inner closing (List.infix_refl _) hpair hinit
    obtain ⟨_, _, hopened⟩ := WalkStep.inInitializer_after hpair.opens hpending hinit
    obtain ⟨hinner, hclosed⟩ := hpair.sameBraces hrun hpending hinit hquiet
    exact ⟨hopened.openScopes_eq, hinner.openScopes_eq, (hinner.trans hclosed).openScopes_eq⟩
  · have hpart : inner <:+: opening :: (inner ++ [closing]) := ⟨[opening], [closing], by simp⟩
    refine hpair.closesItsScope hrun hground hblock fun index below hrests => ?_
    exact restsOn_of_wellNested hpair.nested rfl hrun
      (fun step hstep => hpendings step (hpart.subset hstep)) (hkeeps.of_infix hpart)
      (opening.grounded_after _ hground) hrests
  · exact hpair.closeBlock_of_interrupts hrun hpending hinit hinterrupts

/-- The scope stack keeps step with the braces around a number. -/
theorem staysInStep_numberInitializer : IsPureCode numberInitializer ∧
    ∃ opening inner closing,
      opening :: (inner ++ [closing]) <:+: walkTrace typeCatalog {} numberInitializer ∧
      IsBracePair opening inner closing ∧ opening.opensInitializer = true ∧
      StaysInStep (environmentOf typeCatalog {} numberInitializer) opening closing := by
  have hpure : IsPureCode numberInitializer := ⟨by decide, by decide⟩
  have hviews : (((walkTrace typeCatalog {} numberInitializer).drop 10).take 3).map
      (WalkStep.view (environmentOf typeCatalog {} numberInitializer)) =
        (some (.opens .brace), true, false, [(1, false), (0, false)]) ::
          ([(none, true, false, [(1, false), (0, false)])] ++
            [(some (.closes .brace), true, false, [(1, false), (0, false)])]) := by
    cbv
  obtain ⟨opening, inner, closing, hwithin, hpair, hopening, hinner, hclosing⟩ :=
    exists_pair_of_view hviews rfl rfl .nil
  have hquiet : ∀ step ∈ opening :: (inner ++ [closing]),
      step.interrupts (environmentOf typeCatalog {} numberInitializer) = false := by
    intro step hstep
    have hview := List.mem_map_of_mem
      (f := WalkStep.view (environmentOf typeCatalog {} numberInitializer)) hstep
    rw [List.map_cons, List.map_append, List.map_singleton, hopening, hinner, hclosing] at hview
    simp only [List.singleton_append, List.mem_cons, List.not_mem_nil, or_false] at hview
    rcases hview with hview | hview | hview <;> exact congrArg (·.2.2.1) hview
  obtain ⟨_, _, hpairs⟩ := braces_match_scopes typeCatalog {} hpure
  refine ⟨hpure, opening, inner, closing, hwithin, hpair, congrArg (·.2.1) hopening, ?_⟩
  exact (hpairs opening inner closing hwithin hpair).1 (keepsInitializers_of_forall hquiet)

/-- The scope stack does not keep step with the braces of all balanced sources: a type name inside a
braced initializer lets its closing brace close the function around it. -/
theorem not_staysInStep_castInitializer :
    ¬∀ (catalog : Catalog) (config : Config) (source : List Char),
      checkBalance (scrub source) = none →
      IsPureCode (scrub source) → ∀ opening inner closing,
        opening :: (inner ++ [closing]) <:+: walkTrace catalog config (scrub source) →
          IsBracePair opening inner closing →
            StaysInStep (environmentOf catalog config (scrub source)) opening closing := by
  intro h
  have hbalance : checkBalance (scrub castInitializer) = none := by cbv
  have hpure : IsPureCode (scrub castInitializer) := ⟨by decide, by decide⟩
  have hviews : (((walkTrace typeCatalog {} (scrub castInitializer)).drop 10).take 6).map
      (WalkStep.view (environmentOf typeCatalog {} (scrub castInitializer))) =
        (some (.opens .brace), true, false, [(1, false), (0, false)]) ::
          ([(some (.opens .paren), true, false, [(1, false), (0, false)]),
            (none, true, true, [(1, false), (0, false)]),
            (some (.closes .paren), false, false, [(1, false), (0, false)]),
            (none, false, false, [(1, false), (0, false)])] ++
            [(some (.closes .brace), false, false, [(0, false)])]) := by
    cbv
  obtain ⟨opening, inner, closing, hwithin, hpair, hopening, _, hclosing⟩ :=
    exists_pair_of_view hviews rfl rfl (.pair .paren .nil .nil)
  have hinit : opening.opensInitializer = true := congrArg (·.2.1) hopening
  have hstep := h typeCatalog {} castInitializer hbalance hpure opening inner closing hwithin hpair
  obtain ⟨hopened, _, hclosed⟩ := hstep.initializer hinit
  have hbefore := congrArg (·.2.2.2) hopening
  have hafter := congrArg (·.2.2.2) hclosing
  have hsame : [(1, false), (0, false)] = [(0, false)] :=
    hbefore.symm.trans (hopened.trans (hclosed.symm.trans hafter))
  exact absurd hsame (by decide)

end BrickLint
