import BrickLint.Directive
import BrickLint.Text.Lines

/-!
# Expansions

An expander replaces definitions and leaves out lines, so the rows of the expanded text are not
those of the source. The line markers in the expanded text tell which line each row comes from.
-/

namespace BrickLint.Expand

open Text

/-- Why there is no expansion of a text. -/
inductive ExpansionFault where
  /-- The expander fails. -/
  | failed
  /-- A line marker has a number of too many digits. -/
  | longLineNumber (digits : Nat)
  deriving DecidableEq, Repr

/-- An expanded source. -/
structure Expansion where
  /-- The expanded text. -/
  text : List Char
  /-- For each of its lines, the number of the line of the source that it comes from. -/
  lines : List Nat
  deriving DecidableEq, Repr

/-- An expanded text with the lines that it comes from (`preprocess`). -/
def Expansion.ofText (text : List Char) : Except ExpansionFault Expansion :=
  let lines := visualLines text
  match longLineNumber? lines with
  | some digits => .error (.longLineNumber digits)
  | none => .ok ⟨text, lineMap lines⟩

end BrickLint.Expand
