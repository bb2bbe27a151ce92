import BrickLint.Analysis
import BrickLint.Proofs.Anchor.Line
import BrickLint.Proofs.Anchor.Walk

/-!
# The result of an analysis

No pass of an analysis fails by itself, so the result is put together from the findings of the
passes. What the grammar pass adds depends on its tools, and nothing else does.
-/

namespace BrickLint

open Text

/-- The findings that make a program invalid, in the order in which they are listed. -/
def errorFindings (catalog : Catalog) (config : Config) (source : List Char) : List Finding :=
  literalFindings (scan source) ++ (checkBalance (scan source).text).toList ++
    (checkDeclarations catalog config (scan source).text).findings.filter Finding.isError

/-- The findings of the grammar pass, which runs on request and on programs without errors. -/
def hintFindings (tools : Grammar.Tools) (catalog : Catalog) (config : Config)
    (source : List Char) : List Finding :=
  if config.grammarCheck && (errorFindings catalog config source).isEmpty then
    Grammar.findings tools config source
  else []

/-- All findings of an analysis, in the order of the passes. -/
def allFindings (tools : Grammar.Tools) (catalog : Catalog) (config : Config)
    (source : List Char) : List Finding :=
  literalFindings (scan source) ++ lineFindings config source (scan source) ++
    (checkBalance (scan source).text).toList ++
    (checkDeclarations catalog config (scan source).text).findings.filter Finding.isError ++
    (checkDeclarations catalog config (scan source).text).findings.filter (fun f => !f.isError) ++
    hintFindings tools catalog config source

/-- Tools that fail on every text. -/
def absentTools : Grammar.Tools :=
  ⟨fun _ _ => none, fun _ => none⟩

/-- Several lists of diagnostics show one list of findings. -/
theorem diagnosticsOf_append (l k : List Finding) :
    diagnosticsOf (l ++ k) = diagnosticsOf l ++ diagnosticsOf k :=
  List.map_append

/-- Diagnostics are taken out of a list with the findings that they show. -/
theorem filter_diagnosticsOf (p : Diagnostic → Bool) (findings : List Finding) :
    (diagnosticsOf findings).filter p = diagnosticsOf (findings.filter fun f => p f.toDiagnostic) :=
  List.filter_map

section

variable (tools : Grammar.Tools) (catalog : Catalog) (config : Config) (source : List Char)

/-- The findings that are shown as warnings. -/
def warningFindings : List Finding :=
  lineFindings config source (scan source) ++
    (checkDeclarations catalog config (scan source).text).findings.filter fun f => !f.isError

/-- The result of an analysis shows the findings of its passes. -/
theorem analyze_eq :
    analyze tools catalog config source =
      { isValid := (errorFindings catalog config source).isEmpty
        errors := diagnosticsOf (errorFindings catalog config source)
        warnings := diagnosticsOf (warningFindings catalog config source)
        diagnostics := diagnosticsOf (allFindings tools catalog config source) } := by
  have hrun : (Passes.ofTools tools).run catalog config source = .ok
      { isValid := (errorFindings catalog config source).isEmpty
        errors := diagnosticsOf (errorFindings catalog config source)
        warnings := diagnosticsOf (warningFindings catalog config source)
        diagnostics := diagnosticsOf (allFindings tools catalog config source) } := by
    have hempty : ∀ l : List Finding, (diagnosticsOf l).isEmpty = l.isEmpty :=
      fun _ => List.isEmpty_map
    have hhints : (if config.grammarCheck && (errorFindings catalog config source).isEmpty then
        diagnosticsOf (Grammar.findings tools config source) else []) =
        diagnosticsOf (hintFindings tools catalog config source) := by
      rw [hintFindings]
      split <;> rfl
    have herrors : literalFindings (scan source) ++ (checkBalance (scan source).text).toList ++
        (checkDeclarations catalog config (scan source).text).findings.filter Finding.isError =
        errorFindings catalog config source := rfl
    simp only [Passes.run, Passes.ofTools, bind, Except.bind, pure, Except.pure,
      ← diagnosticsOf_append, herrors, hempty, hhints]
    rw [allFindings, warningFindings]
  rw [analyze, analyzeWith, hrun]

/-- The errors of an analysis. -/
theorem errors_analyze :
    (analyze tools catalog config source).errors =
      diagnosticsOf (errorFindings catalog config source) := by
  rw [analyze_eq]

/-- A program is valid when nothing makes it invalid. -/
theorem isValid_analyze :
    (analyze tools catalog config source).isValid =
      (errorFindings catalog config source).isEmpty := by
  rw [analyze_eq]

/-- The diagnostics of an analysis show the findings of its passes. -/
theorem diagnostics_analyze :
    (analyze tools catalog config source).diagnostics =
      diagnosticsOf (allFindings tools catalog config source) := by
  rw [analyze_eq]

end

/-- A finding about a character is an error. -/
theorem Finding.IsMarked.severity {text : List Char} {f : Finding} (h : f.IsMarked text) :
    f.cause.severity = .error := by
  obtain ⟨cause, p, c, rfl, hmark, _⟩ := h
  cases cause <;> first | rfl | simp [Cause.mark?] at hmark

/-- A finding about a piece of grammar is a hint. -/
theorem severity_problemCause (source : List UInt8) (node : Grammar.Node) :
    (Grammar.problemCause source node).severity = .hint := by
  unfold Grammar.problemCause
  split <;> rfl

/-- The grammar pass gives hints only, whatever parser and expansion it works with. -/
theorem severity_of_mem_findingsWith {config : Config} {parse? : List Char → Option Grammar.Node}
    {expand : List Char → Except Expand.ExpansionFault Expand.Expansion} {source : List Char}
    {f : Finding} (h : f ∈ Grammar.findingsWith config parse? expand source) :
    f.cause.severity = .hint := by
  unfold Grammar.findingsWith at h
  dsimp only at h
  cases hroot : parse? (Grammar.prepare config expand source).text with
  | none => simp [hroot] at h
  | some root =>
    rw [hroot] at h
    rcases List.mem_append.mp h with hproblem | hentry
    · obtain ⟨node, _, rfl⟩ := List.mem_map.mp hproblem
      exact severity_problemCause _ node
    · split at hentry
      · simp at hentry
      · obtain rfl := List.mem_singleton.mp hentry
        rfl

/-- The hints of an analysis are hints. -/
theorem severity_of_mem_hintFindings {tools : Grammar.Tools} {catalog : Catalog} {config : Config}
    {source : List Char} {f : Finding} (h : f ∈ hintFindings tools catalog config source) :
    f.cause.severity = .hint := by
  unfold hintFindings at h
  split at h
  · exact severity_of_mem_findingsWith h
  · simp at h

/-- A finding about declarations is about a character or about a name of the source. -/
theorem isMarked_or_isNamed_of_mem_checkDeclarations {catalog : Catalog} {config : Config}
    {source : List Char} {f : Finding}
    (h : f ∈ (checkDeclarations catalog config (scan source).text).findings) :
    f.IsMarked source ∨ f.IsNamed (rows source) := by
  have hscan := forall₂_scan source
  rcases isNamed_of_mem_checkDeclarations h with hinitializer | hnamed
  · have hmarked := isMarked_of_mem_initializerFindings (restAt_start _) hinitializer
    exact Or.inl (hmarked.of_blanked hscan)
  · obtain ⟨cause, name, line, column, rfl, hcause, hname⟩ := hnamed
    exact Or.inr ⟨cause, name, line, column, rfl, hcause, hname.of_codeRows.of_blanked hscan⟩

/-- A finding of an analysis is about a character, about a name, or about a row of the source, or it
is a hint. -/
theorem allFindings_cases {tools : Grammar.Tools} {catalog : Catalog} {config : Config}
    {source : List Char} {f : Finding} (h : f ∈ allFindings tools catalog config source) :
    f.IsMarked source ∨ f.IsNamed (rows source) ∨
      (∃ n row, (rows source)[n]? = some row ∧ f.IsInRow config.maxLineLength row n) ∨
      f.cause.severity = .hint := by
  simp only [allFindings, List.mem_append] at h
  rcases h with ((((hliteral | hline) | hbalance) | herror) | hwarning) | hhint
  · exact Or.inl (isMarked_of_mem_literalFindings hliteral)
  · exact Or.inr (Or.inr (Or.inl (isInRow_of_mem_lineFindings hline)))
  · have hmarked := isMarked_of_checkBalance (Option.mem_toList.mp hbalance)
    exact Or.inl (hmarked.of_blanked (forall₂_scan source))
  · have hfound := (List.mem_filter.mp herror).1
    exact (isMarked_or_isNamed_of_mem_checkDeclarations hfound).imp_right Or.inl
  · have hfound := (List.mem_filter.mp hwarning).1
    exact (isMarked_or_isNamed_of_mem_checkDeclarations hfound).imp_right Or.inl
  · exact Or.inr (Or.inr (Or.inr (severity_of_mem_hintFindings hhint)))

/-- Two results that differ in their hints at most. -/
structure AnalysisResult.SameButHints (result other : AnalysisResult) : Prop where
  /-- The verdict is the same. -/
  isValid : result.isValid = other.isValid
  /-- The errors are the same. -/
  errors : result.errors = other.errors
  /-- The warnings are the same. -/
  warnings : result.warnings = other.warnings
  /-- The diagnostics are the same, hints apart. -/
  diagnostics : result.diagnostics.filter (·.severity != .hint) =
    other.diagnostics.filter (·.severity != .hint)

/-- Nothing but the hints depends on the tools. -/
theorem analyze_sameButHints (tools other : Grammar.Tools) (catalog : Catalog) (config : Config)
    (source : List Char) :
    (analyze tools catalog config source).SameButHints (analyze other catalog config source) := by
  rw [analyze_eq, analyze_eq]
  refine ⟨rfl, rfl, rfl, ?_⟩
  have hhints : ∀ tools : Grammar.Tools,
      (hintFindings tools catalog config source).filter
        (fun f => f.toDiagnostic.severity != .hint) = [] := by
    refine fun tools => List.filter_eq_nil_iff.mpr fun f hf => ?_
    have hseverity : f.toDiagnostic.severity = .hint := severity_of_mem_hintFindings hf
    simp [hseverity]
  simp only [filter_diagnosticsOf, allFindings, List.filter_append, hhints]

/-- The grammar pass finds the same when the expander makes the same of the source. -/
theorem Grammar.findings_congr {tools other : Grammar.Tools} {config : Config}
    {source : List Char} (hparse : tools.parse? = other.parse?)
    (hexpand : config.grammarPreprocess = true →
      tools.expand? config.defines (Dialect.toC source) =
        other.expand? config.defines (Dialect.toC source)) :
    Grammar.findings tools config source = Grammar.findings other config source := by
  have hprepare : Grammar.prepare config (tools.preprocess config.defines) source =
      Grammar.prepare config (other.preprocess config.defines) source := by
    cases hswitch : config.grammarPreprocess with
    | false => simp [Grammar.prepare, hswitch]
    | true => simp only [Grammar.prepare, Grammar.Tools.preprocess, hexpand hswitch]
  simp only [Grammar.findings, Grammar.findingsWith, hprepare, hparse]

/-- Analyses are the same when the grammar pass does not run or the expander makes the same of the
source. -/
theorem analyze_congr {tools other : Grammar.Tools} {config : Config} {source : List Char}
    (catalog : Catalog) (hparse : tools.parse? = other.parse?)
    (hexpand : config.grammarCheck = true → config.grammarPreprocess = true →
      tools.expand? config.defines (Dialect.toC source) =
        other.expand? config.defines (Dialect.toC source)) :
    analyze tools catalog config source = analyze other catalog config source := by
  have hhints : hintFindings tools catalog config source =
      hintFindings other catalog config source := by
    unfold hintFindings
    cases hcheck : config.grammarCheck with
    | false => simp only [Bool.false_and, Bool.false_eq_true, if_false]
    | true => rw [Grammar.findings_congr hparse (hexpand hcheck)]
  rw [analyze_eq, analyze_eq, allFindings, allFindings, hhints]

end BrickLint
