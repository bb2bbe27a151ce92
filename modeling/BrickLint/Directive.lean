import BrickLint.Text.After
import BrickLint.Text.Digit

/-!
# Directive lines

A line whose first nonblank character is a hash is a directive. Three things are read off such
lines: the directive with its argument, the name that a definition introduces, and the line number
that a line marker announces.
-/

namespace BrickLint

open Text

/-- A directive and the text of its argument. -/
structure Directive where
  /-- The word after the hash. -/
  name : String
  /-- The rest of the line, without the blanks around it. -/
  argument : String
  deriving DecidableEq, Repr

/-- Directives are named with ASCII letters and underscores. -/
def isDirectiveChar (c : Char) : Bool :=
  c.isAlpha || c == '_'

/-- The text behind the hash of a directive line, without the blanks around the hash. -/
def afterHash? (line : List Char) : Option (List Char) :=
  (afterChar? '#' (stripStart line)).map stripStart

/-- The text of one row; a line feed may end it. -/
def oneRow? (cs : List Char) : Option (List Char) :=
  let row := if cs.getLast? = some '\n' then cs.dropLast else cs
  if row.contains '\n' then none else some row

/-- Reads a directive line (`parse_directive`). The name must be followed by something other than a
word character. -/
def parseDirective? (line : List Char) : Option Directive := do
  let cs ← afterHash? line
  let name := cs.takeWhile isDirectiveChar
  let rest := cs.dropWhile isDirectiveChar
  if name.isEmpty || rest.head?.any isWordChar then none
  else
    let argument ← oneRow? (stripStart rest)
    return ⟨String.ofList name, String.ofList (strip argument)⟩

/-- The name that a definition line introduces. -/
def definedName? (line : List Char) : Option String := do
  let cs ← afterSeparateWord? ["define"] (← afterHash? line)
  let (name, _) ← splitIdent? cs
  return String.ofList name

/-- The digits of the line number that a line marker such as `#line 7 "name"` announces for the next
line. -/
def lineMarkerDigits? (line : List Char) : Option (List Char) := do
  let cs ← afterSeparateWord? ["#line"] line
  let digits := cs.takeWhile isDigitChar
  let name ← afterChar? '"' (← afterBlanks? (cs.dropWhile isDigitChar))
  if digits.isEmpty || name.head? == some '"' || !name.contains '"' then none
  else some digits

/-- The line number that a line marker announces for the next line. -/
def lineMarker? (line : List Char) : Option Nat :=
  (lineMarkerDigits? line).map digitsValue

/-- Numbers the lines of an expanded text, the first of which is number `current`. A line marker
has the number before the one that it announces, and at least one. -/
def lineMapFrom (current : Nat) : List (List Char) → List Nat
  | [] => []
  | line :: rest =>
    match lineMarker? line with
    | some next => max 1 (next - 1) :: lineMapFrom next rest
    | none => current :: lineMapFrom (current + 1) rest

/-- For each line of an expanded text, the number of the line that it comes from (`build_line_map`).
-/
def lineMap (lines : List (List Char)) : List Nat :=
  lineMapFrom 1 lines

/-- How many digits of a line number are read. -/
def maxLineDigits : Nat :=
  4300

/-- The length of the first line number with more digits than are read. -/
def longLineNumber? (lines : List (List Char)) : Option Nat :=
  ((lines.filterMap lineMarkerDigits?).map List.length).find? (maxLineDigits < ·)

end BrickLint
