import BrickLint.Directive
import BrickLint.Directive.Conditional
import BrickLint.Text.Lines

/-!
# Layout of a source

The lines of a scrubbed source are told apart: directive lines, continuation lines, which follow a
line that ends in a backslash, and lines of code. A line of code carries its number and the path of
conditional branches around it.
-/

namespace BrickLint

open Text

/-- A line of code. -/
structure CodeLine where
  /-- The number of the line, counted from zero. -/
  number : Nat
  /-- The characters of the line. -/
  text : List Char
  /-- The conditional branches around the line, outermost first. -/
  path : List Branch
  deriving DecidableEq, Repr

/-- What the lines of a source hold. -/
structure Layout where
  /-- The lines of code, in order. -/
  code : List CodeLine := []
  /-- The names that definitions introduce, in order and with repetitions. -/
  defined : List String := []
  deriving DecidableEq, Repr

/-- The layout of the lines from number `number` on. The flag tells that the previous line ends in a
backslash, and `conds` are the conditional groups around the first line. -/
def layoutFrom (conds : Conditionals) (continued : Bool) (number : Nat) :
    List (List Char) → Layout
  | [] => {}
  | line :: rest =>
    let stripped := strip line
    if continued || stripped.isEmpty then layoutFrom conds (endsInBackslash line) (number + 1) rest
    else if stripped.head? = some '#' then
      match parseDirective? stripped with
      | none => layoutFrom conds (endsInBackslash line) (number + 1) rest
      | some directive =>
        let conds := conds.apply directive.name
        let others := layoutFrom conds (endsInBackslash line) (number + 1) rest
        if directive.name = "define" then
          { others with defined := (definedName? stripped).toList ++ others.defined }
        else others
    else
      let others := layoutFrom conds (endsInBackslash line) (number + 1) rest
      { others with code := ⟨number, line, conds.path⟩ :: others.code }

/-- The layout of the lines of a source. -/
def layout (lines : List (List Char)) : Layout :=
  layoutFrom {} false 0 lines

end BrickLint
