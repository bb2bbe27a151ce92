import BrickLint.Text.Position

/-!
# Diagnostics

A diagnostic is a message about a range of characters of one line.
-/

namespace BrickLint

open Text

/-- How serious a diagnostic is (`Severity`). Only errors make a program invalid. -/
inductive Severity where
  /-- The program is wrong. -/
  | error
  /-- The program is doubtful. -/
  | warning
  /-- A remark. -/
  | info
  /-- A remark of the advisory grammar pass. -/
  | hint
  deriving DecidableEq, Repr

/-- The name of a severity. -/
def Severity.name : Severity → String
  | .error => "error"
  | .warning => "warning"
  | .info => "info"
  | .hint => "hint"

/-- The severity of a name. -/
def Severity.ofName? (name : String) : Option Severity :=
  [Severity.error, .warning, .info, .hint].find? fun severity => severity.name == name

/-- A message about characters of one line (`Diagnostic`). -/
structure Diagnostic where
  /-- The text shown to the user. -/
  message : String
  /-- How serious it is. -/
  severity : Severity
  /-- Where the characters start. -/
  position : Position
  /-- How many characters the message is about. -/
  length : Nat
  /-- The name of the pass that found it. -/
  source : String
  deriving DecidableEq, Repr

/-- A diagnostic for `length` characters (`Diagnostic.at`). Negative lines and columns count as
zero, and the range holds at least one character. -/
def Diagnostic.at (message : String) (severity : Severity) (line column length : Int)
    (source : String) : Diagnostic :=
  ⟨message, severity, ⟨line.toNat, column.toNat⟩, max 1 length.toNat, source⟩

/-- The position just after the last character of the range. -/
def Diagnostic.rangeEnd (d : Diagnostic) : Position :=
  ⟨d.position.line, d.position.column + d.length⟩

end BrickLint
