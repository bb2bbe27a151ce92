import BrickLint.Proofs.LexicalScope.Headers

/-!
# Lexical scoping is decided correctly

The errors and the unused variables that the declaration pass reports for a printed program are
those of lexical scoping.
-/

namespace BrickLint.LexicalScope

open Text

section

variable {catalog : Catalog} {config : Config} {p : Program} (hp : p.WellNamed catalog)

include hp

/-- The variables of a well named program are names. -/
theorem isName_of_mem_names : ∀ name ∈ p.names, IsName name := by
  intro name hname
  obtain ⟨hidentifier, hkeyword, _⟩ := hp.variableNames name hname
  exact ⟨hidentifier, hkeyword⟩

/-- The functions of a well named program are names. -/
theorem isName_of_mem_functionNames : ∀ name ∈ p.functionNames, IsName name := by
  intro name hname
  obtain ⟨hidentifier, hkeyword, _⟩ := hp.functions name hname
  exact ⟨hidentifier, hkeyword⟩

/-- What is known of a printed program before its code is walked. -/
def environmentOf (catalog : Catalog) (config : Config) (width : Nat) (p : Program) : Environment :=
  ⟨catalog, config, [], [], collectFunctions catalog config [] (codeLines 0 (p.rows width)), []⟩

/-- The variables of a well named program have no meaning of their own. -/
theorem fits_of_mem_names (width : Nat) :
    ∀ name ∈ p.names, Fits (environmentOf catalog config width p) name := by
  intro name hname
  obtain ⟨hidentifier, hkeyword, hknown⟩ := hp.variableNames name hname
  obtain ⟨hcontains, _⟩ := collectFunctions_eq hp.nodup (isName_of_mem_names hp)
    (isName_of_mem_functionNames hp) catalog config width
  refine ⟨hidentifier, hkeyword, ?_⟩
  simp [Walk.isGlobalName, environmentOf, hcontains, hp.apart name hname, hknown]

/-- The functions of a well named program may have their names where the walk meets them. -/
theorem fitsFunction_of_mem_functionNames (width : Nat) :
    ∀ name ∈ p.functionNames, FitsFunction (environmentOf catalog config width p) name := by
  intro name hname
  obtain ⟨hidentifier, hkeyword, hcatalog⟩ := hp.functions name hname
  exact ⟨hidentifier, hkeyword, by simpa [environmentOf] using hcatalog, rfl⟩

/-- Walking a printed program: the state at the end of its code. -/
theorem walkCode_program (width : Nat) :
    ∃ s found, walkCode (environmentOf catalog config width p) (codeLines 0 (p.rows width)) =
        atRest s found ∧ (∀ f ∈ found, f.isError = true) ∧
      diagnosticsOf found = p.errors width ∧ s.arena.map (·.declared) = p.scopes width ∧
      ∀ scope ∈ s.arena, IsSettled scope := by
  obtain ⟨t, hruns, hframes⟩ := runs_program width p ScopeStack.wellFormed_initial settled_initial
    (by rfl : ScopeStack.frames {} = [[]]) (fits_of_mem_names hp width)
    (fitsFunction_of_mem_functionNames hp width) 0
  obtain ⟨found, hfold, herror, hdiagnostics⟩ := hruns.found
  refine ⟨t, found, hfold [], herror, hdiagnostics, ?_, ?_⟩
  · have hstack : t.stack = [0] := hruns.grows.stack_eq
    have hopened : (t.arena.drop 1).map (·.declared) = p.scopesFrom width 0 := hruns.grows.opened_eq
    have hlength : 1 ≤ t.arena.length := hruns.grows.length_le
    cases harena : t.arena with
    | nil => simp [harena] at hlength
    | cons root rest =>
      have hroot : root.declared = p.addedFrom width 0 [] := by
        simpa [ScopeStack.frames, hstack, ScopeStack.scopeAt, harena, markUsed, unmarked]
          using hframes
      rw [harena, List.drop_one, List.tail_cons] at hopened
      rw [List.map_cons, hroot, hopened, Program.scopes]
  · intro scope hscope
    obtain ⟨index, hindex, rfl⟩ := List.mem_iff_getElem.mp hscope
    have hsettled := hruns.settled index
    rwa [ScopeStack.scopeAt, List.getElem?_eq_getElem hindex] at hsettled

/-- The layout of a printed program: all its rows are code. -/
theorem layout_text (width : Nat) :
    layout (codeRows (p.text width)) = ⟨codeLines 0 (p.rows width), []⟩ := by
  have hrows := isPlainRow_of_mem (isName_of_mem_names hp) (isName_of_mem_functionNames hp) width
  rw [Program.text, codeRows_flatMap hrows]
  exact layoutFrom_eq hrows 0

/-- A printed program has no types of its own. -/
theorem isIdle_text (width : Nat) :
    IsIdle (collectTypeNames catalog (codeRows (p.text width))) := by
  have hrows := isPlainRow_of_mem (isName_of_mem_names hp) (isName_of_mem_functionNames hp) width
  rw [Program.text, codeRows_flatMap hrows]
  exact isIdle_collectTypeNames hrows catalog

/-- The report on a printed program comes from its function table and from the walk alone. -/
theorem checkDeclarations_text (width : Nat) {s : ScopeStack} {found : List Finding}
    (hwalk : walkCode (environmentOf catalog config width p) (codeLines 0 (p.rows width)) =
      atRest s found) :
    (checkDeclarations catalog config (p.text width)).findings =
        (collectFunctions catalog config [] (codeLines 0 (p.rows width))).findings ++ found ++
          (if config.reportUnusedVariables then (s.arena.flatMap unusedVariables).map unusedFinding
            else []) ∧
      (checkDeclarations catalog config (p.text width)).unused =
        s.arena.flatMap unusedVariables := by
  have hidle := isIdle_text hp width
  have hinitializers : initializerFindings .start (p.text width) = [] :=
    initializerFindings_flatMap (isPlainRow_of_mem (isName_of_mem_names hp)
      (isName_of_mem_functionNames hp) width) _
  unfold environmentOf at hwalk
  simp only [checkDeclarations, hidle.types, hidle.enumConstants, layout_text hp, hwalk,
    hinitializers, atRest, List.filterMap_nil, List.append_nil, and_self]

end

/-- The unused variables of settled scopes are those of their variables. -/
theorem flatMap_unusedVariables {arena : List Scope} (hsettled : ∀ scope ∈ arena, IsSettled scope) :
    arena.flatMap unusedVariables = (arena.map (·.declared)).flatten.filter fun v =>
      !v.used && !v.isParameter && !isExempt v.name := by
  induction arena with
  | nil => rfl
  | cons scope rest ih =>
    obtain ⟨hscope, hrest⟩ := List.forall_mem_cons.mp hsettled
    rw [List.flatMap_cons, ih hrest, List.map_cons, List.flatten_cons, List.filter_append]
    simp [unusedVariables, hscope.kind_ne_aggregate, hscope.kind_ne_enum]

/-- Lexical scoping is decided correctly: for every program of the fragment, whatever the width of
its indentation, the errors of the declaration pass are the errors of lexical scoping, in text
order, and the unused variables are those that no use stands for, by scope and in the order of
declaration. -/
theorem checkDeclarations_eq_lexicalScope (catalog : Catalog) (config : Config) (width : Nat)
    (p : Program) (hp : p.WellNamed catalog) :
    diagnosticsOf ((checkDeclarations catalog config (p.text width)).findings.filter
        Finding.isError) = p.errors width ∧
      (checkDeclarations catalog config (p.text width)).unused = p.unused width := by
  obtain ⟨s, found, hwalk, herror, hdiagnostics, hscopes, hsettled⟩ := walkCode_program hp width
  obtain ⟨hfindings, hunused⟩ := checkDeclarations_text hp width hwalk
  obtain ⟨_, hfunctions⟩ := collectFunctions_eq hp.nodup (isName_of_mem_names hp)
    (isName_of_mem_functionNames hp) catalog config width
  have hwarnings : (if config.reportUnusedVariables then
      (s.arena.flatMap unusedVariables).map unusedFinding else []).filter Finding.isError = [] := by
    rw [List.filter_eq_nil_iff]
    intro f hf
    split at hf
    · obtain ⟨v, _, rfl⟩ := List.mem_map.mp hf
      simp [unusedFinding, Finding.isError, Cause.severity]
    · simp at hf
  constructor
  · rw [hfindings, List.filter_append, List.filter_append, hwarnings, List.append_nil,
      List.filter_eq_self.mpr herror,
      List.filter_eq_nil_iff.mpr fun f hf => by simp [hfunctions f hf],
      List.nil_append, hdiagnostics]
  · rw [hunused, flatMap_unusedVariables hsettled, hscopes, Program.unused]

/-- A catalog with one function. -/
def sampleCatalog : Catalog :=
  ⟨["Wait"], ["TRUE"], Catalog.keywordNames, [], "sample", false⟩

/-- A program with a second declaration in one scope, a declaration that hides another one, and a
use of a name that is declared in an inner scope only. -/
def sampleProgram : Program :=
  [.declare "total" ["speed"],
    .function "run" ["speed"]
      (.declare "steps" ["steps"]
        (.loop "turn" (.assign "total" "speed" (.declare "steps" [] .done))
          (.block (.declare "inner" [] .done) (.assign "inner" "turn" .done))))]

/-- The names of the sample are well chosen, and what is wrong with it is found. -/
theorem checkDeclarations_sample : sampleProgram.WellNamed sampleCatalog ∧
    (diagnosticsOf ((checkDeclarations sampleCatalog {} (sampleProgram.text 2)).findings.filter
        Finding.isError)).map (fun d => (d.message, d.position)) =
      [("Variable 'steps' already declared at line 3", ⟨2, 13⟩),
        ("Variable 'inner' is not defined", ⟨10, 2⟩),
        ("Variable 'turn' is not defined", ⟨10, 10⟩)] ∧
    (checkDeclarations sampleCatalog {} (sampleProgram.text 2)).unused.map
        (fun v => (v.name, v.line)) =
      [("speed", 0), ("steps", 2), ("steps", 5), ("inner", 8)] := by
  have hnamed : sampleProgram.WellNamed sampleCatalog :=
    ⟨by decide, by decide, by decide, by decide⟩
  obtain ⟨herrors, hunused⟩ :=
    checkDeclarations_eq_lexicalScope sampleCatalog {} 2 sampleProgram hnamed
  rw [herrors, hunused]
  exact ⟨hnamed, by decide, by decide⟩

end BrickLint.LexicalScope
