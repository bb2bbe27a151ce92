import BrickLint.Bracket.Balance
import BrickLint.Declaration.Report
import BrickLint.Grammar.Check
import BrickLint.Statement

/-!
# Analysis of a program

All passes run over one text, and their findings are put together in a fixed order: errors of the
line checks, warnings of the line checks, the bracket fault, errors and warnings about declarations,
and hints of the grammar pass. The grammar pass runs only when it is switched on and nothing is
wrong so far. A pass that fails leaves a single internal error; a failing grammar pass only leaves
no hints.
-/

namespace BrickLint

/-- The outcome of an analysis (`AnalysisResult`). -/
structure AnalysisResult where
  /-- Whether the program is free of errors. -/
  isValid : Bool
  /-- The errors. -/
  errors : List Diagnostic
  /-- The warnings. -/
  warnings : List Diagnostic
  /-- All diagnostics, in the order in which they are shown. -/
  diagnostics : List Diagnostic
  deriving DecidableEq, Repr

/-- The passes of an analysis. Each of them may fail with a message. -/
structure Passes where
  /-- Tells code from comments and literals. -/
  scan : List Char → Except String Scan := fun source => .ok (BrickLint.scan source)
  /-- Checks the literals. -/
  literals : Scan → Except String (List Finding) := fun scan => .ok (literalFindings scan)
  /-- Checks the lines. -/
  lines : Config → List Char → Scan → Except String (List Finding) :=
    fun config source scan => .ok (lineFindings config source scan)
  /-- Checks the brackets of a scrubbed text. -/
  balance : List Char → Except String (Option Finding) := fun text => .ok (checkBalance text)
  /-- Checks the declarations of a scrubbed text. -/
  declarations : Catalog → Config → List Char → Except String (List Finding) :=
    fun catalog config text => .ok (checkDeclarations catalog config text).findings
  /-- Checks the grammar of a program without errors. -/
  grammar : Config → List Char → Except String (List Finding)

/-- The passes of an analysis whose grammar pass works with given tools. -/
def Passes.ofTools (tools : Grammar.Tools) : Passes where
  grammar := fun config source => .ok (Grammar.findings tools config source)

/-- The diagnostics that show findings. -/
def diagnosticsOf (findings : List Finding) : List Diagnostic :=
  findings.map Finding.toDiagnostic

/-- The outcome of an analysis in which a pass failed. -/
def AnalysisResult.failed (message : String) : AnalysisResult :=
  let failure := Finding.toDiagnostic ⟨.internalFailure message, 0, 0, 1⟩
  ⟨false, [failure], [], [failure]⟩

/-- Runs the passes, unless one fails (`_analyze`). -/
def Passes.run (passes : Passes) (catalog : Catalog) (config : Config) (source : List Char) :
    Except String AnalysisResult := do
  let scan ← passes.scan source
  let lineErrors := diagnosticsOf (← passes.literals scan)
  let lineWarnings := diagnosticsOf (← passes.lines config source scan)
  let bracketErrors := diagnosticsOf (← passes.balance scan.text).toList
  let declarations ← passes.declarations catalog config scan.text
  let declarationErrors := diagnosticsOf (declarations.filter Finding.isError)
  let declarationWarnings := diagnosticsOf (declarations.filter fun f => !f.isError)
  let errors := lineErrors ++ bracketErrors ++ declarationErrors
  let hints :=
    if config.grammarCheck && errors.isEmpty then
      match passes.grammar config source with
      | .ok findings => diagnosticsOf findings
      | .error _ => []
    else []
  return {
    isValid := errors.isEmpty
    errors := errors
    warnings := lineWarnings ++ declarationWarnings
    diagnostics := lineErrors ++ lineWarnings ++ bracketErrors ++ declarationErrors ++
      declarationWarnings ++ hints }

/-- The outcome of an analysis with given passes. -/
def analyzeWith (passes : Passes) (catalog : Catalog) (config : Config) (source : List Char) :
    AnalysisResult :=
  match passes.run catalog config source with
  | .ok result => result
  | .error message => .failed message

/-- Analyses a program with given tools (`NXCAnalyzer.analyze`). -/
def analyze (tools : Grammar.Tools) (catalog : Catalog) (config : Config) (source : List Char) :
    AnalysisResult :=
  analyzeWith (.ofTools tools) catalog config source

end BrickLint
