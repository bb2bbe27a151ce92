import BrickLint.Proofs.BraceScope.Pairs
import BrickLint.Proofs.FunctionTable
import BrickLint.Proofs.HeaderTokens
import BrickLint.Proofs.ResultForm

/-!
# Functions that the walk finds and the table knows

The functions of a source are collected line by line before its code is walked, and the walk finds
the headers of functions by itself, token by token. The table knows the functions whose headers
start a line in the usual form. About a function that is in the table nothing is reported: a name
that resolves nowhere and a call of an unknown function are never names in the table.
-/

namespace BrickLint

open Text

namespace TypeNames

/-- All names that have been kept are identifiers. -/
structure HoldsIdentifiers (s : TypeNames) : Prop where
  /-- Types are identifiers. -/
  types : ∀ name ∈ s.types, isIdentifier name = true
  /-- The last identifier is one. -/
  lastIdent : ∀ name, s.lastIdent = some name → isIdentifier name = true

variable {catalog : Catalog} {s : TypeNames} {name : String}

/-- Adding an identifier keeps identifiers. -/
theorem HoldsIdentifiers.addType (hs : s.HoldsIdentifiers) (hname : isIdentifier name = true) :
    (addType catalog name s).HoldsIdentifiers := by
  unfold TypeNames.addType
  split
  · exact hs
  · refine ⟨fun type htype => ?_, hs.lastIdent⟩
    rcases List.mem_insert_iff.mp htype with rfl | htype
    · exact hname
    · exact hs.types type htype

/-- Reading an identifier keeps identifiers. -/
theorem HoldsIdentifiers.ident (hs : s.HoldsIdentifiers) (hname : isIdentifier name = true) :
    (s.ident catalog name).HoldsIdentifiers := by
  have hlast : ∀ last, some name = some last → isIdentifier last = true :=
    fun last hsome => Option.some.inj hsome ▸ hname
  unfold TypeNames.ident
  split
  · have hforget : HoldsIdentifiers { s with expectTag := false } := ⟨hs.types, hs.lastIdent⟩
    exact hforget.addType hname
  split
  · exact ⟨hs.types, hs.lastIdent⟩
  split
  · exact ⟨hs.types, hs.lastIdent⟩
  split
  · exact ⟨hs.types, hlast⟩
  · exact ⟨hs.types, hlast⟩

/-- Ending a statement keeps identifiers. -/
theorem HoldsIdentifiers.endStatement (hs : s.HoldsIdentifiers) :
    (s.endStatement catalog).HoldsIdentifiers := by
  have hnamed : ∀ {s : TypeNames}, s.HoldsIdentifiers →
      (s.lastIdent.elim s (TypeNames.addType catalog · s)).HoldsIdentifiers := by
    intro s hs
    cases hlast : s.lastIdent with
    | none => exact hs
    | some name => exact hs.addType (hs.lastIdent name hlast)
  have hdone : HoldsIdentifiers { s with pendingEnum := false } := ⟨hs.types, hs.lastIdent⟩
  unfold TypeNames.endStatement
  dsimp only
  split
  · exact ⟨(hnamed hdone).types, by simp⟩
  · exact ⟨hs.types, by simp⟩

/-- Reading punctuation keeps identifiers. -/
theorem HoldsIdentifiers.punct (hs : s.HoldsIdentifiers) (text : String) :
    (s.punct catalog text).HoldsIdentifiers := by
  unfold TypeNames.punct
  dsimp only
  split
  · split <;> exact ⟨hs.types, hs.lastIdent⟩
  split
  · exact ⟨hs.types, hs.lastIdent⟩
  split
  · split <;> exact ⟨hs.types, hs.lastIdent⟩
  split
  · have hforget : HoldsIdentifiers { s with expectTag := false } := ⟨hs.types, hs.lastIdent⟩
    exact hforget.endStatement
  · exact ⟨hs.types, hs.lastIdent⟩

/-- Reading tokens keeps identifiers. -/
theorem HoldsIdentifiers.foldl_step (hs : s.HoldsIdentifiers) {tokens : List Token}
    (htokens : ∀ token ∈ tokens, token.kind = .ident → isIdentifier token.text = true) :
    (tokens.foldl (TypeNames.step catalog) s).HoldsIdentifiers := by
  induction tokens generalizing s with
  | nil => exact hs
  | cons token tokens ih =>
    obtain ⟨htoken, htokens⟩ := List.forall_mem_cons.mp htokens
    have hstep : (s.step catalog token).HoldsIdentifiers := by
      unfold TypeNames.step
      split
      case h_1 hkind => exact hs.ident (htoken hkind)
      case h_2 => exact hs
      case h_3 => exact hs.punct token.text
    exact ih hstep htokens

end TypeNames

/-- The types of a source are identifiers. -/
theorem isIdentifier_of_mem_types {catalog : Catalog} {lines : List (List Char)} {name : String}
    (h : name ∈ (collectTypeNames catalog lines).types) : isIdentifier name = true := by
  have hinitial : TypeNames.HoldsIdentifiers {} := ⟨by simp, by simp⟩
  refine (hinitial.foldl_step fun token htoken hkind => ?_).types name h
  obtain ⟨line, _, htoken⟩ := List.mem_flatMap.mp htoken
  exact (prefix_of_mem_tokenize htoken hkind).1

/-- The types that a header may have in a source. -/
def typesOfSource (catalog : Catalog) (text : List Char) : List String :=
  variableTypes ++ functionTypes ++ (collectTypeNames catalog (codeRows text)).types

/-- The types of headers are identifiers. -/
theorem isIdentifier_of_mem_typesOfSource (catalog : Catalog) (text : List Char) :
    ∀ type ∈ typesOfSource catalog text, isIdentifier type = true := by
  intro type htype
  rcases List.mem_append.mp htype with hbasic | huser
  · exact (by decide : ∀ type ∈ variableTypes ++ functionTypes, isIdentifier type = true)
      type hbasic
  · exact isIdentifier_of_mem_types huser

/-- A function is known: it is in the table of a report. -/
def DeclarationReport.Knows (report : DeclarationReport) (name : String) : Prop :=
  ∃ function ∈ report.functions, function.name = name

/-- The known functions are those whose headers start a line of code. -/
theorem knows_iff (catalog : Catalog) (config : Config) (text : List Char) (name : String) :
    (checkDeclarations catalog config text).Knows name ↔
      ∃ line ∈ (layout (codeRows text)).code, ∃ header,
        HasHeader (typesOfSource catalog text) (tokenize line.text) header ∧
          header.name = name := by
  have hcontains : (checkDeclarations catalog config text).Knows name ↔
      (environmentOf catalog config text).functions.contains name = true := by
    simp only [FunctionTable.contains, List.any_eq_true, beq_iff_eq]
    rfl
  have htypes := isIdentifier_of_mem_typesOfSource catalog text
  have hne : typesOfSource catalog text ≠ [] := by simp [typesOfSource, variableTypes]
  rw [hcontains, environmentOf, contains_collectFunctions]
  simp only [← matchHeader?_eq_some_iff htypes hne]
  rfl

/-- Whether a cause blames no function of a table: it neither says that its name is undefined nor
proposes another name for it. -/
def Cause.spares (table : FunctionTable) : Cause → Bool
  | .undefinedVariable name | .unknownCall name _ => !table.contains name
  | _ => true

namespace Walk

/-- The findings of a walk blame no function of the source. -/
def Spares (env : Environment) (w : Walk) : Prop :=
  ∀ f ∈ w.findings, f.cause.spares env.functions = true

variable {env : Environment} {w w' : Walk}

/-- Reporting something else blames no function. -/
theorem Spares.report (hw : w.Spares env) {f : Finding}
    (hf : f.cause.spares env.functions = true) : (w.report f).Spares env := by
  intro g hg
  rcases List.mem_append.mp hg with hbefore | hnew
  · exact hw g hbefore
  · rwa [List.mem_singleton.mp hnew]

/-- Punctuation reports nothing. -/
theorem findings_punct (w : Walk) (line : Nat) (text : String) :
    (w.punct line text).findings = w.findings := by
  have hblock : ∀ w : Walk, (openBrace.openBlock line w).findings = w.findings := by
    intro w
    unfold openBrace.openBlock
    split <;> rfl
  unfold punct
  split
  · unfold openParen
    split <;> rfl
  split
  · rfl
  split
  · rfl
  split
  · rfl
  split
  · unfold openBrace
    split
    · split
      · rfl
      · exact hblock _
    · exact hblock _
  split
  · unfold closeBrace
    split
    · split <;> rfl
    · rfl
  split
  · rfl
  split
  · rfl
  split <;> rfl

/-- Declaring a variable blames no function. -/
theorem Spares.declare (hw : w.Spares env) (v : Variable) :
    (w.declare env.catalog env.config v).Spares env := by
  unfold Walk.declare
  split
  · split
    · exact hw
    · exact hw.report rfl
  · have hdeclared : Spares env { w with scopes := w.scopes.declare v } := hw
    dsimp only
    rcases shadowing?_cases env.catalog env.config v with hnone | ⟨cause, rfl | rfl, hsome⟩
    · rw [hnone]
      exact hdeclared
    · rw [hsome]
      exact hdeclared.report rfl
    · rw [hsome]
      exact hdeclared.report rfl

/-- A name that resolves nowhere is the name of no function. -/
theorem Spares.resolve (hw : w.Spares env) (line : Nat) (token : Token) :
    (w.resolve env line token).Spares env := by
  unfold Walk.resolve
  split
  · exact hw
  split
  · exact hw
  split
  · exact hw
  case isFalse hglobal =>
    refine hw.report ?_
    simp only [isGlobalName, Bool.or_eq_true, not_or, Bool.not_eq_true] at hglobal
    simp [Cause.spares, hglobal]

/-- Reading an identifier outside declarations blames no function. -/
theorem Spares.reference (hw : w.Spares env) (line : Nat) (prev : Option Token) (token : Token)
    (rest : List Token) : (w.reference env line prev token rest).Spares env := by
  unfold Walk.reference
  split
  · unfold noteCall
    split <;> exact hw
  split
  · exact hw
  split
  · exact hw
  · exact hw.resolve line token

/-- Reading an identifier that is neither a tag nor a qualifier blames no function. -/
theorem Spares.name (hw : w.Spares env) (code : CodeLine) (prev : Option Token) (token : Token)
    (rest : List Token) : (w.name env code prev token rest).Spares env := by
  unfold Walk.name
  split
  · split <;> exact hw
  split
  · exact hw
  split
  · split
    · unfold declarator
      split
      · exact hw
      split
      · exact hw
      · exact hw.declare _
    · exact hw.reference code.number prev token rest
  · exact hw.reference code.number prev token rest

end Walk

/-- A step blames no function. -/
theorem WalkStep.spares_after {env : Environment} {step : WalkStep}
    (hw : step.before.Spares env) : (step.after env).Spares env := by
  unfold WalkStep.after WalkStep.read
  split
  · intro f hf
    rw [Walk.findings_punct] at hf
    exact hw f hf
  · exact hw
  · unfold Walk.ident
    split
    · exact hw
    split
    · exact hw
    split
    · exact hw
    split
    · unfold Walk.tag
      split <;> exact hw
    split
    · exact hw
    split
    · exact hw
    split
    · exact hw
    · exact hw.name step.code step.prev step.token step.rest

/-- Steps blame no function. -/
theorem spares_of_isRun {env : Environment} {w w' : Walk} {steps : List WalkStep}
    (hrun : IsRun env w steps w') (hw : w.Spares env) : w'.Spares env := by
  induction steps generalizing w with
  | nil =>
    obtain rfl : w = w' := hrun
    exact hw
  | cons step steps ih =>
    obtain ⟨rfl, hrun⟩ := hrun
    exact ih hrun (WalkStep.spares_after hw)

/-- A name is blamed in a report: it is called undefined, or another name is proposed for it. -/
def DeclarationReport.Blames (report : DeclarationReport) (name : String) : Prop :=
  ∃ f ∈ report.findings, f.cause = .undefinedVariable name ∨
    ∃ best, f.cause = .unknownCall name best

/-- The findings of a report blame no function of the source. -/
theorem spares_of_mem_checkDeclarations {catalog : Catalog} {config : Config} {text : List Char}
    {f : Finding}
    (h : f ∈ (checkDeclarations catalog config text).findings) :
    f.cause.spares (environmentOf catalog config text).functions = true := by
  cases origin_of_mem_checkDeclarations h with
  | function hfunction =>
    have habout := isAboutHeader_of_mem_collectFunctions hfunction
    cases hcause : f.cause <;> simp [hcause, Cause.isAboutHeader, Cause.spares] at habout ⊢
  | walk hwalk =>
    have hinitial : Walk.Spares (environmentOf catalog config text) {} := by simp [Walk.Spares]
    exact spares_of_isRun (isRun_walkTrace catalog config text) hinitial f hwalk
  | call call best _ hunknown hf =>
    subst hf
    simp [Cause.spares, hunknown]
  | initializer hinitializer =>
    rw [cause_of_mem_initializerFindings hinitializer]
    rfl
  | unused v _ hf =>
    subst hf
    rfl

/-- A known function is never blamed. -/
theorem not_blames_of_knows {catalog : Catalog} {config : Config} {text : List Char} {name : String}
    (h : (checkDeclarations catalog config text).Knows name) :
    ¬(checkDeclarations catalog config text).Blames name := by
  have hknown : (environmentOf catalog config text).functions.contains name = true := by
    obtain ⟨function, hfunction, rfl⟩ := h
    exact List.any_eq_true.mpr ⟨function, hfunction, beq_self_eq_true _⟩
  rintro ⟨f, hf, hcause⟩
  have hspares := spares_of_mem_checkDeclarations hf
  rcases hcause with hcause | ⟨best, hcause⟩ <;> simp [hcause, Cause.spares, hknown] at hspares

/-- Only an identifier before a parenthesis announces a header. -/
theorem WalkStep.announces {env : Environment} {step : WalkStep} (hpending : step.OpensPending)
    {kind : ScopeKind} (h : (step.after env).pendingHeader = some kind) :
    step.token.kind = .ident ∧ headText? step.rest = some "(" := by
  refine ⟨?_, (step.pendingHeader_after env hpending).resolve_left (by simp [h])⟩
  cases hmark : step.token.mark? with
  | some mark =>
    rw [WalkStep.after_of_mark env hmark, Walk.pendingHeader_readMark] at h
    · cases h
    · exact hpending.imp_right fun hparen => Option.some.inj (hmark.symm.trans hparen)
  | none =>
    have hbefore : step.before.pendingHeader = none := hpending.resolve_right (by simp [hmark])
    cases hkind : step.token.kind with
    | ident => rfl
    | number =>
      simp only [WalkStep.after, WalkStep.read, hkind, hbefore] at h
      cases h
    | punct =>
      have hne := Token.ne_of_mark?_eq_none hkind hmark
      have hkept : (step.before.punct step.code.number step.token.text).pendingHeader = none := by
        rw [Walk.punct_of_ne_mark _ _ hne]
        split
        · exact hbefore
        split
        · exact hbefore
        split <;> exact hbefore
      simp only [WalkStep.after, WalkStep.read, hkind, hkept] at h
      cases h

/-- A function is known if its header starts the line where the walk finds it. -/
theorem knows_of_isHeaderStart {catalog : Catalog} {config : Config} {text : List Char}
    {step : WalkStep}
    (hstep : step ∈ walkTrace catalog config text) {kind : ScopeKind}
    (hannounces : (step.after (environmentOf catalog config text)).pendingHeader = some kind)
    {before : List Token} (hline : tokenize step.code.text = before ++ step.token :: step.rest)
    (hheader : IsHeaderStart (typesOfSource catalog text) (before.map Token.text)) :
    (checkDeclarations catalog config text).Knows step.token.text := by
  obtain ⟨hkind, hnext⟩ :=
    WalkStep.announces (opensPending_walkTrace catalog config text step hstep)
    hannounces
  have htoken : step.token ∈ tokenize step.code.text := by simp [hline]
  cases hrest : step.rest with
  | nil => simp [hrest, headText?] at hnext
  | cons paren after =>
    have htext : paren.text = "(" := by simpa [hrest, headText?] using hnext
    have hparen : paren ∈ tokenize step.code.text := by simp [hline, hrest]
    have hpunct := (Token.mark?_eq_some_iff.mp (mark?_of_text_eq_paren hparen htext)).1
    have hname : step.token = ⟨.ident, step.token.text, step.token.column⟩ := by rw [← hkind]
    have hopen : paren = ⟨.punct, "(", paren.column⟩ := by rw [← hpunct, ← htext]
    refine (knows_iff catalog config text _).mpr ⟨step.code, code_of_mem_traceLines hstep,
      ⟨step.token.text, step.token.column, paren.column + 1⟩, ⟨before, after, hheader,
        (prefix_of_mem_tokenize htoken hkind).1, Nat.succ_pos _, ?_⟩, rfl⟩
    rw [hline, hrest, Nat.add_sub_cancel]
    exact congrArg (before ++ ·) (congrArg₂ List.cons hname (congrArg (· :: after) hopen))

/-- When the walk finds the header of a function, the function is known if and only if a header of
its name starts a line of code in the usual form, and so whenever its own header does. A known
function is never blamed, before its definition or after it. -/
theorem function_known_iff_header (catalog : Catalog) (config : Config) (text : List Char)
    {step : WalkStep}
    (hstep : step ∈ walkTrace catalog config text)
    (hannounces : (step.after (environmentOf catalog config text)).pendingHeader = some .function)
    {before : List Token} (hline : tokenize step.code.text = before ++ step.token :: step.rest) :
    ((checkDeclarations catalog config text).Knows step.token.text ↔
        ∃ line ∈ (layout (codeRows text)).code, ∃ header,
          HasHeader (typesOfSource catalog text) (tokenize line.text) header ∧
            header.name = step.token.text) ∧
      (IsHeaderStart (typesOfSource catalog text) (before.map Token.text) →
        (checkDeclarations catalog config text).Knows step.token.text) ∧
      ((checkDeclarations catalog config text).Knows step.token.text →
        ¬(checkDeclarations catalog config text).Blames step.token.text) :=
  ⟨knows_iff catalog config text step.token.text, knows_of_isHeaderStart hstep hannounces hline,
    not_blames_of_knows⟩

/-- A function behind a use of it. -/
def usedBefore : List Char :=
  "int x=f;\nvoid f()\x7b\x7d".toList

/-- The tokens behind its name. -/
def behindF : List Token :=
  [⟨.punct, "(", 6⟩, ⟨.punct, ")", 7⟩, ⟨.punct, "\x7b", 8⟩, ⟨.punct, "\x7d", 9⟩]

/-- The header of a function that is used before its definition starts a line, so the function is
known. -/
theorem known_usedBefore : ∃ step ∈ walkTrace typeCatalog {} usedBefore,
    step.token.text = "f" ∧
      (checkDeclarations typeCatalog {} usedBefore).Knows step.token.text ∧
      ¬(checkDeclarations typeCatalog {} usedBefore).Blames step.token.text := by
  have hview : (walkTrace typeCatalog {} usedBefore)[6]?.map (fun step : WalkStep =>
      (tokenize step.code.text, step.token, step.rest,
        (step.after (environmentOf typeCatalog {} usedBefore)).pendingHeader)) =
          some ([⟨.ident, "void", 0⟩] ++ ⟨.ident, "f", 5⟩ :: behindF, ⟨.ident, "f", 5⟩, behindF,
            some .function) := by
    cbv
  obtain ⟨step, hstep, hview⟩ := Option.map_eq_some_iff.mp hview
  simp only [Prod.mk.injEq] at hview
  obtain ⟨hline, htoken, hrest, hannounces⟩ := hview
  rw [← htoken, ← hrest] at hline
  have hstart : IsHeaderStart (typesOfSource typeCatalog usedBefore) ["void"] :=
    ⟨[], [], [], "void", [], rfl, by simp, by simp, by simp,
      by simp [typesOfSource, functionTypes], .nil⟩
  obtain ⟨_, hknown, hspared⟩ := function_known_iff_header typeCatalog {} usedBefore
    (List.mem_of_getElem? hstep) hannounces hline
  refine ⟨step, List.mem_of_getElem? hstep, by rw [htoken], hknown hstart, ?_⟩
  exact hspared (hknown hstart)

/-- The walk finds a function that is defined: the scope of the announced header is bound to a
brace. -/
def WalkStep.DefinesFunction (catalog : Catalog) (config : Config) (text : List Char)
    (step : WalkStep) : Prop :=
  (step.after (environmentOf catalog config text)).pendingHeader = some .function ∧
    ∃ scope, (checkDeclarations catalog config
      text).walk.scopes.arena[step.before.scopes.arena.length]? =
      some scope ∧ scope.kind = .function ∧ scope.awaitingBrace = false

/-- A function whose type has two words, and a use of it. -/
def twoWordType : List Char :=
  "long int f()\x7b\x7d\nint x=f;".toList

/-- Not all functions that the walk finds are known: a header whose type has two words is in no form
that the table knows, and a use of the function is blamed. -/
theorem blamed_twoWordType : IsPureCode (scrub twoWordType) ∧
    ∃ step ∈ walkTrace typeCatalog {} (scrub twoWordType),
      step.DefinesFunction typeCatalog {} (scrub twoWordType) ∧
        ¬(checkDeclarations typeCatalog {} (scrub twoWordType)).Knows step.token.text ∧
        (checkDeclarations typeCatalog {} (scrub twoWordType)).Blames step.token.text := by
  have hpure : IsPureCode (scrub twoWordType) := ⟨by decide, by decide⟩
  have hview : (walkTrace typeCatalog {} (scrub twoWordType))[2]?.map (fun step : WalkStep =>
      (step.token.text, step.before.scopes.arena.length,
        (step.after (environmentOf typeCatalog {} (scrub twoWordType))).pendingHeader)) =
          some ("f", 1, some .function) := by
    cbv
  have hreport : (fun report : DeclarationReport => (report.functions,
      report.findings.map Finding.cause, report.walk.scopes.arena[1]?.map (fun scope : Scope =>
        (scope.kind, scope.awaitingBrace))))
          (checkDeclarations typeCatalog {} (scrub twoWordType)) =
          ([], [.undefinedVariable "f"], some (.function, false)) := by
    cbv
  obtain ⟨step, hstep, hview⟩ := Option.map_eq_some_iff.mp hview
  simp only [Prod.mk.injEq] at hview hreport
  obtain ⟨htext, hindex, hannounces⟩ := hview
  obtain ⟨hfunctions, hcauses, hscope⟩ := hreport
  obtain ⟨scope, hscope, hbound⟩ := Option.map_eq_some_iff.mp hscope
  refine ⟨hpure, step, List.mem_of_getElem? hstep, ⟨hannounces, scope, ?_, ?_⟩, ?_, ?_⟩
  · rw [hindex, hscope]
  · exact Prod.mk.inj hbound
  · rintro ⟨function, hfunction, _⟩
    rw [hfunctions] at hfunction
    exact List.not_mem_nil hfunction
  · have hcause : Cause.undefinedVariable "f" ∈ (checkDeclarations typeCatalog {}
        (scrub twoWordType)).findings.map Finding.cause := by
      rw [hcauses]
      exact List.mem_singleton_self _
    obtain ⟨f, hf, hcause⟩ := List.mem_map.mp hcause
    exact ⟨f, hf, .inl (by rw [hcause, htext])⟩

end BrickLint
