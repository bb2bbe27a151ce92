import BrickLint.Proofs.DeclarationReport
import BrickLint.Statement
import Mathlib.Data.List.Basic

/-!
# Switches

Five switches are read inside the passes, each at the place where its findings would be made. Two
runs are compared here, one as the options say and one with all five switches on: they go the same
way, and at every step the first has made those findings of the second that it shows.
-/

namespace BrickLint

open Text

/-- Whether findings with a cause are shown. -/
def Config.shows (config : Config) : Cause → Bool
  | .lineTooLong _ | .mixedIndentation => config.checkStyle
  | .missingSemicolon => config.requireSemicolons
  | .functionShadowsBuiltin _ | .variableShadowsFunction _ | .variableShadowsConstant _ =>
    config.warnOnShadowing
  | .unknownCall _ _ => config.suggestBuiltins
  | .unusedVariable _ => config.reportUnusedVariables
  | _ => true

/-- The findings that are shown, in order. -/
def Config.shown (config : Config) (findings : List Finding) : List Finding :=
  findings.filter fun f => config.shows f.cause

/-- All five switches are on. -/
structure Config.ShowsAll (config : Config) : Prop where
  /-- Findings about style are shown. -/
  checkStyle : config.checkStyle = true
  /-- Missing semicolons are shown. -/
  requireSemicolons : config.requireSemicolons = true
  /-- Declarations that hide a built-in name are shown. -/
  warnOnShadowing : config.warnOnShadowing = true
  /-- Nearest built-in names are shown. -/
  suggestBuiltins : config.suggestBuiltins = true
  /-- Variables that are never read are shown. -/
  reportUnusedVariables : config.reportUnusedVariables = true

namespace Config

variable (config : Config)

/-- What is shown of two lists is put together. -/
theorem shown_append (findings others : List Finding) :
    config.shown (findings ++ others) = config.shown findings ++ config.shown others :=
  List.filter_append findings others

/-- Nothing is left out of findings that are shown for themselves. -/
theorem shown_eq_self {findings : List Finding} (h : ∀ f ∈ findings, config.shows f.cause = true) :
    config.shown findings = findings :=
  List.filter_eq_self.mpr h

/-- Findings that one switch is for are all shown or all left out. -/
theorem shown_eq_ite (findings : List Finding) {switch : Bool}
    (h : ∀ f ∈ findings, config.shows f.cause = switch) :
    config.shown findings = if switch then findings else [] := by
  cases switch with
  | true => exact config.shown_eq_self h
  | false => exact List.filter_eq_nil_iff.mpr fun f hf => by simp [h f hf]

end Config

/-- Findings about the style are shown with the style switch. -/
theorem shows_of_mem_styleFindings {config : Config} {limit : Int} {line : Nat} {raw : List Char}
    {f : Finding} (h : f ∈ styleFindings limit line raw) :
    config.shows f.cause = config.checkStyle := by
  rcases List.mem_append.mp h with hlong | hmixed
  · obtain ⟨_, hlong⟩ := List.mem_ite_nil_right.mp hlong
    obtain rfl := List.mem_singleton.mp hlong
    rfl
  · obtain ⟨_, hmixed⟩ := List.mem_ite_nil_right.mp hmixed
    obtain rfl := List.mem_singleton.mp hmixed
    rfl

variable {catalog : Catalog} {config all : Config}

/-- The switch for semicolons takes the missing ones out of the findings about a line. -/
theorem codeFindings_switches (hall : all.ShowsAll) (s : LineState) (line : Nat)
    (code : List Char) :
    codeFindings config s line code = config.shown (codeFindings all s line code) := by
  have hdoubled : config.shown ((doubledEquals? code).map fun column =>
      (⟨.doubledEquals, line, column, 3⟩ : Finding)).toList =
      ((doubledEquals? code).map fun column =>
        (⟨.doubledEquals, line, column, 3⟩ : Finding)).toList := by
    cases doubledEquals? code <;> rfl
  rw [codeFindings, codeFindings, hall.requireSemicolons, Config.shown_append, hdoubled]
  congr 1
  cases hrequired : config.requireSemicolons <;> cases hcontinued : s.continued <;>
    cases hparens : s.parens == 0 <;> cases hneeds : needsSemicolon (strip code) <;>
    simp [Config.shown, Config.shows, hrequired]

/-- The findings about some lines are those of a run with all switches on that are shown. -/
theorem lineFindingsFrom_switches (hall : all.ShowsAll)
    (hlimit : all.maxLineLength = config.maxLineLength) (s : LineState) (line : Nat)
    (pairs : List (List Char × List Char)) :
    lineFindingsFrom config s line pairs =
      config.shown (lineFindingsFrom all s line pairs) := by
  induction pairs generalizing s line with
  | nil => rfl
  | cons pair pairs ih =>
    obtain ⟨raw, code⟩ := pair
    have hstyle := config.shown_eq_ite
      (styleFindings config.maxLineLength line (dropAllReturns raw))
      fun f hf => shows_of_mem_styleFindings hf
    have hcode : (if (strip (dropAllReturns code)).isEmpty then []
        else codeFindings config s line (dropAllReturns code)) =
        config.shown (if (strip (dropAllReturns code)).isEmpty then []
          else codeFindings all s line (dropAllReturns code)) := by
      rw [codeFindings_switches hall]
      split <;> rfl
    rw [lineFindingsFrom, lineFindingsFrom, hall.checkStyle, if_pos rfl, hlimit,
      Config.shown_append, Config.shown_append, hstyle, ← hcode, ← ih]

/-- The line checks make the findings of a run with all switches on that are shown. -/
theorem lineFindings_switches (hall : all.ShowsAll)
    (hlimit : all.maxLineLength = config.maxLineLength) (source : List Char) (scan : Scan) :
    lineFindings config source scan = config.shown (lineFindings all source scan) :=
  lineFindingsFrom_switches hall hlimit {} 0 _

namespace FunctionTable

/-- A table with the findings that are shown. -/
def hide (config : Config) (table : FunctionTable) : FunctionTable :=
  { table with findings := config.shown table.findings }

/-- A finding that is not shown is not reported. -/
theorem hide_report (table : FunctionTable) (f : Finding) :
    (table.report f).hide config =
      if config.shows f.cause then (table.hide config).report f else table.hide config := by
  simp only [report, hide, Config.shown_append]
  cases hshows : config.shows f.cause <;> simp [Config.shown, hshows]

/-- A finding that is shown in any case is reported in step. -/
theorem hide_report_of_shows (table : FunctionTable) {f : Finding}
    (h : config.shows f.cause = true) :
    (table.hide config).report f = (table.report f).hide config := by
  rw [hide_report, if_pos h]

/-- The first header of a function is added in step. -/
theorem hide_addFirst (hall : all.ShowsAll) (table : FunctionTable) (decl : FunctionDecl) :
    (table.hide config).addFirst catalog config decl =
      (table.addFirst catalog all decl).hide config := by
  have hshows : config.shows (.functionShadowsBuiltin decl.name) = config.warnOnShadowing := rfl
  simp only [addFirst, hall.warnOnShadowing, true_and]
  by_cases hhides : decl.name ≠ "main" ∧ catalog.isFunction decl.name = true
  · rw [if_pos hhides, hide_report]
    cases hswitch : config.warnOnShadowing <;>
      simp [hide, FunctionDecl.finding, hshows, hswitch, hhides]
  · rw [if_neg hhides, if_neg fun h => hhides h.2]
    rfl

/-- Two definitions of a function are compared whatever is shown. -/
theorem hide_addDefinition (table : FunctionTable) (existing decl : FunctionDecl) :
    (table.hide config).addDefinition existing decl =
      (table.addDefinition existing decl).hide config := by
  have hredeclared :
      (table.hide config).report (decl.finding (.functionRedeclared decl.name existing.line)) =
        (table.report (decl.finding (.functionRedeclared decl.name existing.line))).hide config :=
    hide_report_of_shows table rfl
  have hconflict :
      (table.hide config).report (decl.finding (.functionConflict decl.name existing.line)) =
        (table.report (decl.finding (.functionConflict decl.name existing.line))).hide config :=
    hide_report_of_shows table rfl
  have hreplace : ∀ table : FunctionTable,
      (table.hide config).replace decl = (table.replace decl).hide config := fun _ => rfl
  unfold addDefinition
  cases existing.conditional <;> cases decl.conditional <;>
    simp [hredeclared, hconflict, hreplace]

/-- A header is added in step. -/
theorem hide_add (hall : all.ShowsAll) (table : FunctionTable) (decl : FunctionDecl) :
    (table.hide config).add catalog config decl =
      (table.add catalog all decl).hide config := by
  have hfind : (table.hide config).find? decl.name = table.find? decl.name := rfl
  unfold add
  rw [hfind]
  cases table.find? decl.name with
  | none => exact hide_addFirst hall table decl
  | some existing =>
    simp only
    split
    · rfl
    split
    · rfl
    · exact hide_addDefinition table existing decl

end FunctionTable

/-- The functions are collected in step. -/
theorem collectFunctions_switches (hall : all.ShowsAll) (userTypes : List String)
    (code : List CodeLine) :
    collectFunctions catalog config userTypes code =
      (collectFunctions catalog all userTypes code).hide config := by
  have hempty : ({} : FunctionTable) = FunctionTable.hide config {} := rfl
  rw [collectFunctions, collectFunctions, hempty]
  exact List.foldl_hom (FunctionTable.hide config) (FunctionTable.hide_add hall)

/-- An environment whose table has the findings that are shown. -/
def Environment.hide (config : Config) (env : Environment) : Environment :=
  { env with config := config, functions := env.functions.hide config }

namespace Walk

variable {env : Environment}

/-- A walk with the findings that are shown. -/
def hide (config : Config) (w : Walk) : Walk :=
  { w with findings := config.shown w.findings }

/-- A finding that is not shown is not reported. -/
theorem hide_report (w : Walk) (f : Finding) :
    (w.report f).hide config =
      if config.shows f.cause then (w.hide config).report f else w.hide config := by
  simp only [report, hide, Config.shown_append]
  cases hshows : config.shows f.cause <;> simp [Config.shown, hshows]

/-- A finding that is shown in any case is reported in step. -/
theorem hide_report_of_shows (w : Walk) {f : Finding} (h : config.shows f.cause = true) :
    (w.hide config).report f = (w.report f).hide config := by
  rw [hide_report, if_pos h]

/-- Braces are read in step. -/
theorem hide_openBrace (w : Walk) (line : Nat) :
    (w.hide config).openBrace line = (w.openBrace line).hide config := by
  have hblock : ∀ w : Walk, openBrace.openBlock line (w.hide config) =
      (openBrace.openBlock line w).hide config := by
    intro w
    have hscopes : (w.hide config).scopes = w.scopes := rfl
    unfold openBrace.openBlock
    rw [hscopes]
    split <;> rfl
  have hdecl : (w.hide config).decl = w.decl := rfl
  unfold openBrace
  rw [hdecl]
  cases w.decl with
  | none => exact hblock w
  | some d =>
    simp only
    split
    · rfl
    · exact hblock { w with decl := none }

/-- Closing braces are read in step. -/
theorem hide_closeBrace (w : Walk) :
    (w.hide config).closeBrace = w.closeBrace.hide config := by
  have hdecl : (w.hide config).decl = w.decl := rfl
  unfold closeBrace
  rw [hdecl]
  cases w.decl with
  | none => rfl
  | some d =>
    simp only
    split <;> rfl

/-- A punctuation token is read in step. -/
theorem hide_punct (w : Walk) (line : Nat) (text : String) :
    (w.hide config).punct line text = (w.punct line text).hide config := by
  have hparen : (w.hide config).openParen line = (w.openParen line).hide config := by
    have hpending : (w.hide config).pendingHeader = w.pendingHeader := rfl
    unfold openParen
    rw [hpending]
    cases w.pendingHeader <;> rfl
  unfold punct
  rw [hparen, hide_openBrace, hide_closeBrace]
  repeat' split
  all_goals rfl

/-- A name that hides a predefined one is looked for in any case, and told on request. -/
theorem shadowing?_switches (hall : all.ShowsAll) (v : Variable) :
    shadowing? catalog config v =
      (shadowing? catalog all v).filter fun f => config.shows f.cause := by
  unfold shadowing?
  rw [hall.warnOnShadowing]
  cases hswitch : config.warnOnShadowing <;> cases catalog.isFunction v.name <;>
    cases catalog.isConstant v.name <;> simp [Option.filter_some, Config.shows, hswitch]

/-- A finding that may be there is reported in step. -/
theorem hide_elim_report (w : Walk) (found : Option Finding) :
    (found.filter fun f => config.shows f.cause).elim (w.hide config) (w.hide config).report =
      (found.elim w w.report).hide config := by
  cases found with
  | none => rfl
  | some f =>
    rw [Option.filter_some, Option.elim_some, hide_report]
    split <;> rfl

/-- A variable is declared in step. -/
theorem hide_declare (hall : all.ShowsAll) (w : Walk) (v : Variable) :
    (w.hide config).declare catalog config v = (w.declare catalog all v).hide config := by
  have hscopes : (w.hide config).scopes = w.scopes := rfl
  unfold declare
  rw [hscopes, shadowing?_switches hall]
  cases w.scopes.current.find? v.name with
  | some existing =>
    simp only
    split
    · rfl
    · exact hide_report_of_shows w rfl
  | none => exact hide_elim_report { w with scopes := w.scopes.declare v } _

/-- A name is resolved in step. -/
theorem hide_resolve (w : Walk) (line : Nat) (token : Token) :
    (w.hide config).resolve (env.hide config) line token =
      (w.resolve env line token).hide config := by
  have hscopes : (w.hide config).scopes = w.scopes := rfl
  have hglobal : isGlobalName (env.hide config) token.text = isGlobalName env token.text := rfl
  unfold resolve
  rw [hscopes, hglobal]
  split
  · rfl
  split
  · rfl
  split
  · rfl
  · exact hide_report_of_shows w rfl

/-- An identifier outside declarations is read in step. -/
theorem hide_reference (w : Walk) (line : Nat) (prev : Option Token) (token : Token)
    (rest : List Token) :
    (w.hide config).reference (env.hide config) line prev token rest =
      (w.reference env line prev token rest).hide config := by
  have hunknown : startsUnknownType (env.hide config) prev rest =
    startsUnknownType env prev rest := rfl
  unfold reference
  rw [hunknown, hide_resolve]
  split
  · have hcalls : (w.hide config).calls = w.calls := rfl
    unfold noteCall
    rw [hcalls]
    split <;> rfl
  split
  · rfl
  split <;> rfl

/-- A declared name is read in step. -/
theorem hide_declarator (hall : env.config.ShowsAll) (w : Walk) (d : OpenDeclaration)
    (code : CodeLine) (token : Token) (rest : List Token) :
    (w.hide config).declarator (env.hide config) d code token rest =
      (w.declarator env d code token rest).hide config := by
  unfold declarator
  split
  · rfl
  have hname : headIsName (env.hide config).catalog rest = headIsName env.catalog rest := rfl
  rw [hname]
  split
  · rfl
  · exact congrArg (fun w : Walk => { w with decl := some d.named }) (hide_declare hall w _)

/-- An identifier that is neither a tag nor a qualifier is read in step. -/
theorem hide_name (hall : env.config.ShowsAll) (w : Walk) (code : CodeLine)
    (prev : Option Token) (token : Token) (rest : List Token) :
    (w.hide config).name (env.hide config) code prev token rest =
      (w.name env code prev token rest).hide config := by
  have htype : (env.hide config).isType token.text = env.isType token.text := rfl
  have hkeyword : (env.hide config).catalog.isKeyword token.text =
    env.catalog.isKeyword token.text := rfl
  have hdecl : (w.hide config).decl = w.decl := rfl
  unfold name
  rw [htype, hkeyword, hdecl, hide_reference]
  split
  · split <;> rfl
  split
  · rfl
  cases w.decl with
  | none => rfl
  | some d =>
    simp only
    split
    · exact hide_declarator hall w d code token rest
    · rfl

/-- An identifier is read in step. -/
theorem hide_ident (hall : env.config.ShowsAll) (w : Walk) (code : CodeLine)
    (prev : Option Token) (token : Token) (rest : List Token) :
    (w.hide config).ident (env.hide config) code prev token rest =
      ((w.ident env code prev token rest).1.hide config,
        (w.ident env code prev token rest).2) := by
  have hscopes : (w.hide config).scopes = w.scopes := rfl
  unfold ident
  rw [hscopes, hide_name hall]
  split
  · rfl
  split
  · rfl
  split
  · rfl
  cases tagKind? token.text with
  | some kind =>
    simp only [tag]
    split <;> rfl
  | none =>
    simp only
    split
    · rfl
    split
    · rfl
    split <;> rfl

/-- The tokens of a line are read in step. -/
theorem hide_tokens (hall : env.config.ShowsAll) (code : CodeLine)
    (prev : Option Token) (w : Walk) (words : List Token) :
    tokens (env.hide config) code prev (w.hide config) words =
      (tokens env code prev w words).hide config := by
  fun_induction tokens env code prev w words with
  | case1 => rfl
  | case2 prev w token rest hkind ih =>
    rw [tokens, hkind]
    simp only
    rw [hide_punct, ih]
  | case3 prev w token rest hkind ih =>
    rw [tokens, hkind]
    exact ih
  | case4 prev w token hkind after next rest hread ih =>
    rw [tokens, hkind]
    simp only
    rw [hide_ident hall, hread]
    exact ih
  | case5 prev w token hkind after hread =>
    rw [tokens, hkind]
    simp only
    rw [hide_ident hall, hread]
  | case6 prev w token hkind after rest hread ih =>
    rw [tokens, hkind]
    simp only
    rw [hide_ident hall, hread]
    exact ih

end Walk

/-- The code is walked in step. -/
theorem walkCode_switches {env : Environment} (hall : env.config.ShowsAll)
    (code : List CodeLine) :
    walkCode (env.hide config) code = (walkCode env code).hide config := by
  have hempty : ({} : Walk) = Walk.hide config {} := rfl
  rw [walkCode, walkCode, hempty]
  exact List.foldl_hom (Walk.hide config) fun w code => Walk.hide_tokens hall code none w _

/-- The functions of a source are known in step. -/
theorem environmentOf_switches (hall : all.ShowsAll) (text : List Char) :
    environmentOf catalog config text = (environmentOf catalog all text).hide config := by
  rw [environmentOf, collectFunctions_switches hall]
  rfl

/-- A call is looked up in any case, and reported on request. -/
theorem callFinding?_switches {env : Environment} (hall : env.config.ShowsAll)
    (call : Call) :
    callFinding? (env.hide config) call =
      (callFinding? env call).filter fun f => config.shows f.cause := by
  have hhidden : (env.hide config).config = config := rfl
  have hfunctions : (env.hide config).functions.contains call.name =
    env.functions.contains call.name := rfl
  have hdefined : (env.hide config).defined = env.defined := rfl
  have htypes : (env.hide config).userTypes = env.userTypes := rfl
  have hcatalog : (env.hide config).catalog = env.catalog := rfl
  unfold callFinding?
  rw [hall.suggestBuiltins, hhidden, hfunctions, hdefined, htypes, hcatalog]
  split
  · rfl
  · cases hswitch : config.suggestBuiltins <;>
      cases suggest call.name.toList env.catalog.functionNames <;>
      simp [Option.filter_some, Config.shows, hswitch]

/-- The report on declarations makes the findings of a run with all switches on that are shown. -/
theorem checkDeclarations_switches (config : Config) (hall : all.ShowsAll) (text : List Char) :
    (checkDeclarations catalog config text).findings =
      config.shown (checkDeclarations catalog all text).findings := by
  let env := environmentOf catalog all text
  have henv : env.config.ShowsAll := hall
  have hfindings : ∀ config : Config, (checkDeclarations catalog config text).findings =
      (environmentOf catalog config text).functions.findings ++
        (walkCode (environmentOf catalog config text) (layout (codeRows text)).code).findings ++
        (walkCode (environmentOf catalog config text) (layout (codeRows text)).code).calls.filterMap
          (callFinding? (environmentOf catalog config text)) ++
        initializerFindings .start text ++
        if config.reportUnusedVariables then
          ((walkCode (environmentOf catalog config text)
            (layout (codeRows text)).code).scopes.arena.flatMap unusedVariables).map unusedFinding
        else [] := fun _ => rfl
  have hinitializers : config.shown (initializerFindings .start text) =
      initializerFindings .start text :=
    config.shown_eq_self fun f hf => by rw [cause_of_mem_initializerFindings hf]; rfl
  rw [hfindings config, hfindings all, environmentOf_switches hall, walkCode_switches henv,
    hall.reportUnusedVariables, if_pos rfl]
  simp only [Config.shown_append, hinitializers]
  have hcalls : (walkCode env (layout (codeRows text)).code).calls.filterMap
      (callFinding? (env.hide config)) = config.shown
        ((walkCode env (layout (codeRows text)).code).calls.filterMap (callFinding? env)) := by
    rw [Config.shown, List.filter_filterMap]
    exact List.filterMap_congr fun call _ => callFinding?_switches henv call
  have hunused : ∀ unused : List Variable, config.shown (unused.map unusedFinding) =
      if config.reportUnusedVariables then unused.map unusedFinding else [] := by
    intro unused
    refine config.shown_eq_ite _ fun f hf => ?_
    obtain ⟨v, _, rfl⟩ := List.mem_map.mp hf
    rfl
  rw [← hcalls, hunused]
  rfl

end BrickLint
