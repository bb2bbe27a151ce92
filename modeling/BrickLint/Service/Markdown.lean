import BrickLint.Analysis
import BrickLint.SourceFile

/-!
# Results as text

Results are shown as Markdown. Lines and columns are counted from one here, and excerpts of the
source can be added under each diagnostic.
-/

namespace BrickLint.Service

/-- The name of a severity as a heading. -/
def severityTitle : Severity → String
  | .error => "Error"
  | .warning => "Warning"
  | .info => "Info"
  | .hint => "Hint"

/-- The line that shows a diagnostic (`_format_diagnostic`). -/
def diagnosticLine (d : Diagnostic) : String :=
  "- **" ++ severityTitle d.severity ++
    s!"** line {d.position.line + 1}, col {d.position.column + 1} (`" ++ d.source ++ "`): " ++
    d.message

/-- The lines of the source around a diagnostic. -/
def excerptBlock (text : List Char) (d : Diagnostic) : String :=
  "  ```\n" ++ String.ofList (excerpt text (d.position.line + 1) 1) ++ "\n  ```"

/-- A result under a title, with excerpts if the text is given (`_format_result`). -/
def renderResult (result : AnalysisResult) (title : String) (text : Option (List Char)) : String :=
  if result.diagnostics.isEmpty then "**" ++ title ++ ": no problems found.**"
  else
    let errors := result.errors.length
    let warnings := result.warnings.length
    let hints := result.diagnostics.length - errors - warnings
    let status := if result.isValid then "valid" else "INVALID"
    let counts := s!" ({errors} error(s), {warnings} warning(s)" ++
      (if hints = 0 then "" else s!", {hints} hint(s)") ++ ")\n\n"
    let lines := result.diagnostics.flatMap fun d =>
      diagnosticLine d :: (text.map fun text => excerptBlock text d).toList
    "**" ++ title ++ ": " ++ status ++ "**" ++ counts ++ "\n".intercalate lines

end BrickLint.Service
