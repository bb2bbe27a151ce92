import BrickLint.Proofs.AsmBlock.Entry
import BrickLint.Proofs.FunctionConflict.Report
import BrickLint.Proofs.HeaderLanguage

/-!
# Reports inside assembly blocks

No name is checked between the braces of an assembly block: no step between them finds or notes
anything, so nothing that the walk reports stands there. Headers are collected from all lines before
the walk, so a line in such a block that reads like a header is compared with other headers. And the
brace behind the word `asm` opens no block of its own behind a header that waits for its body, nor
inside an initializer: then the names between the braces are checked like all others.
-/

namespace BrickLint

open Text

/-- Whether a cause is that a name is not defined, or declared already. -/
def Cause.isNameCheck : Cause → Bool
  | .functionRedeclared _ _ | .variableRedeclared _ _ | .undefinedVariable _ | .unknownCall _ _ =>
    true
  | _ => false

/-- A finding stands behind the token of one step and before the token of another. -/
def Finding.StandsBetween (f : Finding) (first last : WalkStep) : Prop :=
  (first.code.number < f.line ∨ first.code.number = f.line ∧ first.token.column < f.column) ∧
    (f.line < last.code.number ∨ f.line = last.code.number ∧ f.column < last.token.column)

/-- The word `asm` with two matching braces directly behind it, and the steps between the braces. -/
structure IsAsmBlock (steps : List WalkStep) (word opening : WalkStep) (inner : List WalkStep)
    (closing : WalkStep) : Prop where
  /-- The steps follow each other. -/
  isInfix : word :: opening :: (inner ++ [closing]) <:+: steps
  /-- The first one reads the word. -/
  text_eq : word.token.text = "asm"
  /-- The braces match. -/
  pair : IsBracePair opening inner closing

variable {catalog : Catalog} {config : Config} {text : List Char} {word opening closing : WalkStep}
  {inner : List WalkStep}

/-- Every step reads a token of its line. -/
theorem token_mem_of_mem_walkTrace {step : WalkStep} (h : step ∈ walkTrace catalog config text) :
    step.token ∈ tokenize step.code.text := by
  have hlines : ∀ (code : List CodeLine) (env : Environment) (w : Walk),
      ∀ step ∈ w.traceLines env code, step.token ∈ tokenize step.code.text := by
    intro code env
    induction code with
    | nil => simp [Walk.traceLines]
    | cons line code ih =>
      intro w step hstep
      rcases List.mem_append.mp hstep with hstep | hstep
      · obtain ⟨hsub, hcode⟩ := tokens_trace env line none w (tokenize line.text)
        rw [hcode step hstep]
        exact hsub.subset (List.mem_map_of_mem hstep)
      · exact ih _ step hstep
  exact hlines _ _ _ step h

/-- A step at the place of a finding between two steps comes between these steps. -/
theorem mem_of_standsBetween {pre post : List WalkStep}
    (hsteps : (pre ++ opening :: (inner ++ closing :: post)).Pairwise WalkStep.Precedes)
    {step : WalkStep} (hstep : step ∈ pre ++ opening :: (inner ++ closing :: post)) {f : Finding}
    (hline : f.line = step.code.number) (hcolumn : f.column = step.token.column)
    (hf : f.StandsBetween opening closing) : step ∈ inner := by
  obtain ⟨_, hrest, hpre⟩ := List.pairwise_append.mp hsteps
  obtain ⟨hpost, _⟩ := List.pairwise_cons.mp (List.pairwise_append.mp
    (List.pairwise_cons.mp hrest).2).2.1
  have hbehind : opening.Precedes step := by
    obtain ⟨hfirst, _⟩ := hf
    unfold WalkStep.Precedes
    omega
  have hbefore : step.Precedes closing := by
    obtain ⟨_, hlast⟩ := hf
    unfold WalkStep.Precedes
    omega
  have hasymm : ∀ first second : WalkStep, first.Precedes second → ¬second.Precedes first := by
    unfold WalkStep.Precedes
    omega
  simp only [List.mem_append, List.mem_cons] at hstep
  rcases hstep with hstep | rfl | hstep | rfl | hstep
  · exact absurd hbehind (hasymm _ _ (hpre step hstep opening List.mem_cons_self))
  · exact absurd hbehind (hasymm _ _ hbehind)
  · exact hstep
  · exact absurd hbefore (hasymm _ _ hbefore)
  · exact absurd hbefore (hasymm _ _ (hpost step hstep))

/-- A report on names is a conflict of two headers, or it stands at a step that is not silent. -/
theorem isConflict_or_exists_step {f : Finding}
    (hf : f ∈ (checkDeclarations catalog config text).findings)
    (hcheck : f.cause.isNameCheck = true) :
    f.cause.isConflict = true ∨
      ∃ step ∈ walkTrace catalog config text, ¬step.IsSilent (environmentOf catalog config text) ∧
        f.line = step.code.number ∧ f.column = step.token.column := by
  cases origin_of_mem_checkDeclarations hf with
  | function hfunction =>
    have habout := isAboutHeader_of_mem_collectFunctions hfunction
    left
    cases hcause : f.cause <;>
      simp_all [Cause.isAboutHeader, Cause.isNameCheck, Cause.isConflict]
  | walk hwalk => exact Or.inr (exists_step_of_mem_findings hwalk)
  | call call best hcall _ hf =>
    obtain ⟨step, hstep, hloud, hline, hcolumn⟩ := exists_step_of_mem_calls hcall
    subst hf
    exact Or.inr ⟨step, hstep, hloud, congrArg Int.ofNat hline, congrArg Int.ofNat hcolumn⟩
  | initializer hinitializer =>
    rw [cause_of_mem_initializerFindings hinitializer] at hcheck
    cases hcheck
  | unused v _ hf =>
    subst hf
    cases hcheck

/-- A conflict of two headers is reported at one of them. -/
theorem exists_header_of_isConflict {f : Finding}
    (hf : f ∈ (checkDeclarations catalog config text).findings)
    (hconflict : f.cause.isConflict = true) :
    ∃ h ∈ sourceHeaders catalog text, f = h.finding f.cause := by
  obtain ⟨before, h, after, cause, hsplit, _, rfl⟩ := (mem_findings_of_isConflict hconflict).mp hf
  exact ⟨h, by simp [hsplit], rfl⟩

/-- In front of every step of the walk over a source, nothing is pending inside an assembly
block. -/
theorem isTight_before_of_mem_walkTrace {step : WalkStep}
    (h : step ∈ walkTrace catalog config text) :
    step.before.scopes.Grounded ∧ step.before.IsTight := by
  obtain ⟨pre, post, hsplit⟩ := List.append_of_mem h
  have hpending := opensPending_walkTrace catalog config text
  have hwalk := isRun_walkTrace catalog config text
  rw [hsplit] at hpending hwalk
  obtain ⟨_, hbefore, rfl, _⟩ := isRun_append.mp hwalk
  exact ⟨grounded_of_isRun hbefore ScopeStack.grounded_initial,
    isTight_of_isRun hbefore (fun step hstep => hpending step (List.mem_append_left _ hstep))
      ScopeStack.grounded_initial Walk.isTight_initial⟩

namespace IsAsmBlock

variable (h : IsAsmBlock (walkTrace catalog config text) word opening inner closing)

include h

/-- The word is a step of the walk. -/
theorem word_mem : word ∈ walkTrace catalog config text :=
  h.isInfix.subset List.mem_cons_self

/-- The opening brace is a step of the walk. -/
theorem opening_mem : opening ∈ walkTrace catalog config text :=
  h.isInfix.subset (List.mem_cons_of_mem _ List.mem_cons_self)

/-- The steps of the walk in front of the braces, between them and behind them. -/
theorem exists_split : ∃ pre post, walkTrace catalog config text =
    (pre ++ [word]) ++ opening :: (inner ++ closing :: post) := by
  obtain ⟨pre, post, htrace⟩ := h.isInfix
  exact ⟨pre, post, by simp [← htrace]⟩

/-- The walk goes from the word to the brace, and from there through the block. -/
theorem isRun : opening.before = word.after (environmentOf catalog config text) ∧
    IsRun (environmentOf catalog config text)
      (opening.after (environmentOf catalog config text)) inner
      closing.before := by
  obtain ⟨pre, post, hsplit⟩ := h.exists_split
  have hwalk := isRun_walkTrace catalog config text
  rw [hsplit] at hwalk
  obtain ⟨hbefore, hrun, _⟩ := hwalk.cut
  obtain ⟨_, _, _, hnext⟩ := isRun_append.mp hbefore
  have hnext : word.after (environmentOf catalog config text) = opening.before := hnext
  exact ⟨hnext.symm, hrun⟩

/-- The brace leads into an assembly block when the word stands in one, or nothing else takes the
brace. -/
theorem inside_after_iff (hmember : word.readsMember = false) :
    (opening.after (environmentOf catalog config text)).scopes.inside .asm = true ↔
      word.before.scopes.inside .asm = true ∨
        opening.opensInitializer = false ∧ opening.findsHeader = false := by
  have hkind : word.token.kind = .ident :=
    kind_of_isIdentifier (token_mem_of_mem_walkTrace h.word_mem) (by rw [h.text_eq]; decide)
  obtain ⟨hground, htight⟩ := isTight_before_of_mem_walkTrace h.word_mem
  exact WalkStep.inside_after_iff hkind h.text_eq hmember h.isRun.1 h.pair.opens htight
    hground.toWellFormed

/-- If the brace leads into an assembly block, nothing is pending up to the closing brace. -/
theorem inAsm
    (hinside : (opening.after (environmentOf catalog config text)).scopes.inside .asm = true) :
    (∀ step ∈ inner, step.before.InAsm) ∧ closing.before.InAsm := by
  obtain ⟨hground, htight⟩ := isTight_before_of_mem_walkTrace h.opening_mem
  have hpending := opensPending_walkTrace catalog config text opening h.opening_mem
  have hopened : (opening.after (environmentOf catalog config text)).InAsm :=
    (WalkStep.isTight_after htight hpending hground).inAsm hinside
  obtain ⟨hended, _, hinner⟩ := inAsm_of_wellNested h.pair.nested rfl h.isRun.2
    (opening.grounded_after _ hground) hopened
  exact ⟨hinner, hended⟩

/-- A step of the walk at the place of a finding between the braces comes between the braces. -/
theorem mem_inner {step : WalkStep} (hstep : step ∈ walkTrace catalog config text) {f : Finding}
    (hline : f.line = step.code.number) (hcolumn : f.column = step.token.column)
    (hf : f.StandsBetween opening closing) : step ∈ inner := by
  obtain ⟨_, _, hsplit⟩ := h.exists_split
  exact mem_of_standsBetween (hsplit ▸ precedes_walkTrace catalog config text)
    (hsplit ▸ hstep) hline
    hcolumn hf

end IsAsmBlock

/-- What a step inside or next to an assembly block is judged by: the text, the bracket and the
place of its token, and whether the word or the brace at the start of a block is read otherwise
there. -/
def WalkStep.asmView (step : WalkStep) : String × Option BracketMark × Nat × Nat × Bool :=
  (step.token.text, step.token.mark?, step.code.number, step.token.column,
    step.readsMember || step.opensInitializer || step.findsHeader)

/-- The views of two steps tell whether a finding stands between them. -/
theorem standsBetween_of_view {first last : String × Option BracketMark × Nat × Nat × Bool}
    (hopening : opening.asmView = first) (hclosing : closing.asmView = last) {f : Finding}
    (h : (first.2.2.1 < f.line ∨ first.2.2.1 = f.line ∧ first.2.2.2.1 < f.column) ∧
      (f.line < last.2.2.1 ∨ f.line = last.2.2.1 ∧ f.column < last.2.2.2.1)) :
    f.StandsBetween opening closing := by
  subst hopening hclosing
  exact h

/-- An assembly block is found among some steps by the views of a part of them. -/
theorem exists_block_of_view {steps : List WalkStep} {start length : Nat}
    {word first last : String × Option BracketMark × Nat × Nat × Bool}
    {between : List (String × Option BracketMark × Nat × Nat × Bool)}
    (h : ((steps.drop start).take length).map WalkStep.asmView =
      word :: first :: (between ++ [last]))
    (hword : word.1 = "asm") (hfirst : first.2.1 = some (.opens .brace))
    (hlast : last.2.1 = some (.closes .brace))
    (hbetween : WellNested (between.filterMap (·.2.1))) :
    ∃ step opening inner closing, IsAsmBlock steps step opening inner closing ∧
      step.asmView = word ∧ opening.asmView = first ∧ inner.map WalkStep.asmView = between ∧
      closing.asmView = last := by
  obtain ⟨step, rest, hpart, rfl, hrest⟩ := List.map_eq_cons_iff.mp h
  obtain ⟨opening, body, rfl, rfl, hbody⟩ := List.map_eq_cons_iff.mp hrest
  obtain ⟨inner, _, rfl, rfl, hend⟩ := List.map_eq_append_iff.mp hbody
  obtain ⟨closing, rfl, rfl⟩ := List.map_eq_singleton_iff.mp hend
  have hwithin := (List.take_prefix length (steps.drop start)).isInfix.trans
    (List.drop_suffix start steps).isInfix
  rw [List.filterMap_map] at hbetween
  exact ⟨step, opening, inner, closing, ⟨hpart ▸ hwithin, hword, hfirst, hbetween, hlast⟩,
    rfl, rfl, rfl, rfl⟩

/-- The body of an assembly block is not checked, whatever braces it holds. The brace behind the
word `asm` leads into such a block when the word stands in one already, and otherwise unless the
brace starts a braced initializer or is taken for the body of a header that waits. Then all steps up
to the closing brace are inside the block, and the only reports on names between the braces are
conflicts of headers, which are collected before the walk. -/
theorem asm_body_is_not_walked (catalog : Catalog) (config : Config) (text : List Char)
    {word opening closing : WalkStep} {inner : List WalkStep}
    (hblock : IsAsmBlock (walkTrace catalog config text) word opening inner closing) :
    (word.readsMember = false →
      ((opening.after (environmentOf catalog config text)).scopes.inside .asm = true ↔
        word.before.scopes.inside .asm = true ∨
          opening.opensInitializer = false ∧ opening.findsHeader = false)) ∧
    ((opening.after (environmentOf catalog config text)).scopes.inside .asm = true →
      (∀ step ∈ inner ++ [closing], step.before.scopes.inside .asm = true) ∧
      ∀ f ∈ (checkDeclarations catalog config text).findings, f.cause.isNameCheck = true →
        f.StandsBetween opening closing → f.cause.isConflict = true ∧
          ∃ h ∈ sourceHeaders catalog text, f = h.finding f.cause) := by
  refine ⟨hblock.inside_after_iff, fun hinside => ?_⟩
  obtain ⟨hinner, hclosing⟩ := hblock.inAsm hinside
  refine ⟨fun step hstep => ?_, fun f hf hcheck hbetween => ?_⟩
  · rcases List.mem_append.mp hstep with hstep | hstep
    · exact (hinner step hstep).shape.inside
    · rw [List.mem_singleton.mp hstep]
      exact hclosing.shape.inside
  · rcases isConflict_or_exists_step hf hcheck with
      hconflict | ⟨step, hstep, hloud, hline, hcolumn⟩
    · exact ⟨hconflict, exists_header_of_isConflict hf hconflict⟩
    · have hbody := hblock.mem_inner hstep hline hcolumn hbetween
      exact absurd (WalkStep.isSilent_of_inside (hinner step hbody).shape.inside) hloud

/-- A function with an assembly block that holds a pair of braces, and a line that reads like a
second header of the function. -/
def nestedAsm : List Char :=
  "void f()\x7basm\x7bmov\x7bout\x7d\nint f()\x7d\x7d".toList

/-- All names in the block are passed over, those behind the inner braces too. The line that reads
like a header is still compared with the header of the function. -/
theorem asm_body_is_not_walked_nestedAsm : ∃ word opening inner closing,
    IsAsmBlock (walkTrace typeCatalog {} nestedAsm) word opening inner closing ∧
      (opening.after (environmentOf typeCatalog {} nestedAsm)).scopes.inside .asm = true ∧
      inner.map (·.token.text) = ["mov", "\x7b", "out", "\x7d", "int", "f", "(", ")"] ∧
      (∀ step ∈ inner ++ [closing], step.before.scopes.inside .asm = true) ∧
      ∃ f ∈ (checkDeclarations typeCatalog {} nestedAsm).findings, f.cause.isNameCheck = true ∧
        f.StandsBetween opening closing ∧
        ∃ h ∈ sourceHeaders typeCatalog nestedAsm, f = h.finding f.cause := by
  have hviews : (((walkTrace typeCatalog {} nestedAsm).drop 5).take 11).map WalkStep.asmView =
      ("asm", none, 0, 9, false) :: ("\x7b", some (.opens .brace), 0, 12, false) ::
        ([("mov", none, 0, 13, false), ("\x7b", some (.opens .brace), 0, 16, false),
          ("out", none, 0, 17, false), ("\x7d", some (.closes .brace), 0, 20, false),
          ("int", none, 1, 0, false), ("f", none, 1, 4, false),
          ("(", some (.opens .paren), 1, 5, false), (")", some (.closes .paren), 1, 6, false)] ++
            [("\x7d", some (.closes .brace), 1, 7, false)]) := by
    cbv
  have hfindings : (checkDeclarations typeCatalog {} nestedAsm).findings =
      [⟨.functionRedeclared "f" 0, 1, 4, 1⟩] := by
    cbv
  obtain ⟨word, opening, inner, closing, hblock, hword, hopening, hinner, hclosing⟩ :=
    exists_block_of_view hviews rfl rfl rfl (.pair .brace .nil (.pair .paren .nil .nil))
  have hplain : ∀ {step : WalkStep}, step.asmView.2.2.2.2 = false →
      step.readsMember = false ∧ step.opensInitializer = false ∧ step.findsHeader = false := by
    intro step h
    simpa [WalkStep.asmView, and_assoc] using h
  obtain ⟨hleads, hbody⟩ := asm_body_is_not_walked typeCatalog {} nestedAsm hblock
  have hinside := (hleads (hplain (by rw [hword])).1).mpr
    (Or.inr (hplain (by rw [hopening])).2)
  obtain ⟨hsteps, hreports⟩ := hbody hinside
  have htexts := congrArg (List.map Prod.fst) hinner
  rw [List.map_map] at htexts
  have hmem : (⟨.functionRedeclared "f" 0, 1, 4, 1⟩ : Finding) ∈
      (checkDeclarations typeCatalog {} nestedAsm).findings := by
    rw [hfindings]
    exact List.mem_singleton_self _
  have hbetween : (⟨.functionRedeclared "f" 0, 1, 4, 1⟩ : Finding).StandsBetween
      opening closing :=
    standsBetween_of_view hopening hclosing (by decide)
  exact ⟨word, opening, inner, closing, hblock, hinside, htexts, hsteps,
    _, hmem, rfl, hbetween, (hreports _ hmem rfl hbetween).2⟩

/-- A function with an assembly block behind the header of a loop. -/
def asmBehindLoop : List Char :=
  "void f()\x7bfor(;;)asm\x7bx\x7d\x7d".toList

/-- Names are checked in some assembly blocks: the brace behind the header of a loop is taken for
the body of the loop. -/
theorem not_asm_body_is_unchecked : ¬∀ (catalog : Catalog) (config : Config) (source : List Char),
    checkBalance (scrub source) = none → IsPureCode (scrub source) →
      ∀ word opening inner closing,
        IsAsmBlock (walkTrace catalog config (scrub source)) word opening inner closing →
          ∀ f ∈ (checkDeclarations catalog config (scrub source)).findings,
            f.cause.isNameCheck = true → ¬f.StandsBetween opening closing := by
  intro h
  have hbalance : checkBalance (scrub asmBehindLoop) = none := by cbv
  have hpure : IsPureCode (scrub asmBehindLoop) := ⟨by decide, by decide⟩
  have hviews : (((walkTrace typeCatalog {} (scrub asmBehindLoop)).drop 10).take 4).map
      WalkStep.asmView =
      ("asm", none, 0, 16, true) :: ("\x7b", some (.opens .brace), 0, 19, true) ::
        ([("x", none, 0, 20, false)] ++ [("\x7d", some (.closes .brace), 0, 21, false)]) := by
    cbv
  have hfindings : (checkDeclarations typeCatalog {} (scrub asmBehindLoop)).findings =
      [⟨.undefinedVariable "x", 0, 20, 1⟩] := by
    cbv
  obtain ⟨word, opening, inner, closing, hblock, _, hopening, _, hclosing⟩ :=
    exists_block_of_view hviews rfl rfl rfl .nil
  have hmem : (⟨.undefinedVariable "x", 0, 20, 1⟩ : Finding) ∈
      (checkDeclarations typeCatalog {} (scrub asmBehindLoop)).findings := by
    rw [hfindings]
    exact List.mem_singleton_self _
  exact h typeCatalog {} asmBehindLoop hbalance hpure word opening inner closing hblock _ hmem rfl
    (standsBetween_of_view hopening hclosing (by decide))

end BrickLint
