import BrickLint.Config
import BrickLint.Diagnostic.Finding
import BrickLint.Text.After
import BrickLint.Text.Lines

/-!
# Statements of a line

Heuristics that look at one line at a time: whether a line ends a statement without a semicolon,
whether two equals signs are separated by one blank, and whether the line keeps to the style.
-/

namespace BrickLint

open Text

/-- Words that start a control header with a parenthesis. -/
def controlWords : List String :=
  ["if", "while", "for", "until", "repeat", "switch"]

/-- A control word and an opening parenthesis. -/
def startsControl (code : List Char) : Bool :=
  ((afterWord? controlWords code).map stripStart).any fun cs => cs.head? == some '('

/-- Words that may stand before the type of a function. -/
def headerModifiers : List String :=
  ["inline", "safecall", "static"]

/-- Words that start the header of a function or task. -/
def headerTypes : List String :=
  ["task", "sub", "void", "int", "float", "bool", "byte", "char", "string", "long", "short",
    "unsigned"]

/-- Drops modifiers, each with the blanks after it; `fuel` bounds their number. -/
def dropModifiers (words : List String) : Nat → List Char → List Char
  | 0, cs => cs
  | fuel + 1, cs =>
    match afterSeparateWord? words cs with
    | some rest => dropModifiers words fuel rest
    | none => cs

/-- A function header on one line, with or without its opening brace. -/
def isHeaderLine (code : List Char) : Bool :=
  let tail? := do
    let cs ← afterSeparateWord? headerTypes (dropModifiers headerModifiers code.length code)
    let cs ← afterName? cs
    let cs ← afterFirst? ')' (← afterChar? '(' (stripStart cs))
    return stripStart cs
  tail?.any fun cs => isLineEnd cs || (afterChar? '{' cs).any isLineEnd

/-- Words that start the declaration of a variable. -/
def declarationTypes : List String :=
  ["int", "float", "bool", "byte", "char", "string", "long", "short", "unsigned", "mutex"]

/-- A type, with an optional qualifier before it, and a name. -/
def startsDeclaration (code : List Char) : Bool :=
  let unqualified := (afterSeparateWord? ["const"] code).getD code
  (afterSeparateWord? declarationTypes unqualified).any fun cs => cs.head?.any isWordChar

/-- Drops bracketed subscripts, each with the blanks after it; `fuel` bounds their number. -/
def dropSubscripts : Nat → List Char → List Char
  | 0, cs => cs
  | fuel + 1, cs =>
    match (afterChar? '[' cs).bind (afterFirst? ']') with
    | some rest => dropSubscripts fuel (stripStart rest)
    | none => cs

/-- The characters that may stand before the equals sign of an assignment. -/
def assignmentOperators : List Char :=
  ['-', '+', '*', '/', '%', '&', '|', '^']

/-- A name, subscripts and an assignment operator. -/
def startsAssignment (code : List Char) : Bool :=
  (afterName? code).any fun cs =>
    let cs := dropSubscripts code.length (stripStart cs)
    let cs := if cs.head?.any assignmentOperators.contains then cs.tail else cs
    (afterChar? '=' cs).any fun rest => rest.head? != some '='

/-- A name and a parenthesis that the first closing one ends, with nothing behind it. -/
def isCallLine (code : List Char) : Bool :=
  let tail? := do
    let cs ← afterName? code
    afterFirst? ')' (← afterChar? '(' (stripStart cs))
  tail?.any isLineEnd

/-- Words that leave a block. -/
def jumpWords : List String :=
  ["return", "break", "continue"]

/-- A jump. -/
def startsJump (code : List Char) : Bool :=
  (afterWord? jumpWords code).any atWordEnd

/-- A closing brace followed by the second branch of a conditional. -/
def startsElse (code : List Char) : Bool :=
  (((afterChar? '}' code).map stripStart).bind (afterWord? ["else"])).any atWordEnd

/-- Characters that end a complete line. -/
def statementEnds : List Char :=
  [';', '{', '}']

/-- Characters after which a statement goes on in the next line. -/
def continuationEnds : List Char :=
  [',', '\\', '+', '-', '*', '/', '%', '&', '|', '^', '=', '<', '>', '?', ':', '(', '[', '!']

/-- Lines that need no semicolon. -/
def isComplete (code : List Char) : Bool :=
  code.isEmpty || code.head? == some '#' ||
    code.getLast?.any (fun c => statementEnds.contains c || continuationEnds.contains c) ||
    code.count ')' < code.count '(' ||
    startsElse code || code == "else".toList || code == "do".toList ||
    startsControl code || (afterWord? ["case ", "default"] code).isSome || isHeaderLine code

/-- Whether a line ends a statement without a semicolon (`needs_semicolon`). -/
def needsSemicolon (code : List Char) : Bool :=
  !isComplete code &&
    (startsDeclaration code || startsAssignment code || isCallLine code || startsJump code)

/-- The column of the first equals sign that is followed by one blank and another equals sign. -/
def doubledEquals? : List Char → Option Nat
  | [] => none
  | c :: cs =>
    if c = '=' ∧ cs.head?.any isBlank ∧ cs.tail.head? = some '=' then some 0
    else (doubledEquals? cs).map (· + 1)

/-- Findings about the style of a raw line (`_check_style`). -/
def styleFindings (limit : Int) (line : Nat) (raw : List Char) : List Finding :=
  let indent := raw.takeWhile fun c => c == ' ' || c == '\t'
  (if limit < raw.length then [⟨.lineTooLong limit, line, limit, raw.length - limit⟩] else []) ++
    (if indent.contains '\t' && indent.contains ' ' then
      [⟨.mixedIndentation, line, 0, indent.length⟩] else [])

/-- What the line checks carry from line to line. -/
structure LineState where
  /-- The previous line ends in a backslash. -/
  continued : Bool := false
  /-- How many parentheses are open. -/
  parens : Nat := 0
  deriving DecidableEq, Repr

/-- The state after a scrubbed line. The number of open parentheses never falls below zero. -/
def LineState.next (s : LineState) (code : List Char) : LineState :=
  ⟨endsInBackslash code, s.parens + code.count '(' - code.count ')'⟩

/-- Findings about one scrubbed line. A missing semicolon is reported on request. -/
def codeFindings (config : Config) (s : LineState) (line : Nat) (code : List Char) :
    List Finding :=
  ((doubledEquals? code).map fun column =>
    (⟨.doubledEquals, line, column, 3⟩ : Finding)).toList ++
    if config.requireSemicolons && !s.continued && s.parens == 0 &&
        needsSemicolon (strip code) then
      [⟨.missingSemicolon, line, (stripEnd code).length, 1⟩] else []

/-- Drops the carriage returns at the end of a row. -/
def dropAllReturns (row : List Char) : List Char :=
  dropEndWhile (· == '\r') row

/-- Findings about the lines from number `line` on, given as pairs of the raw and the scrubbed line.
The style is checked on request. -/
def lineFindingsFrom (config : Config) (s : LineState) (line : Nat) :
    List (List Char × List Char) → List Finding
  | [] => []
  | (raw, code) :: rest =>
    let code := dropAllReturns code
    (if config.checkStyle then styleFindings config.maxLineLength line (dropAllReturns raw)
        else []) ++
      (if (strip code).isEmpty then [] else codeFindings config s line code) ++
      lineFindingsFrom config (s.next code) (line + 1) rest

/-- Findings about the lines of a source, in text order (`SyntaxChecker.check`). -/
def lineFindings (config : Config) (source : List Char) (scan : Scan) : List Finding :=
  lineFindingsFrom config {} 0 ((rows source).zip (rows scan.text))

/-- Findings about literals that end without their closing quote. -/
def literalFindings (scan : Scan) : List Finding :=
  scan.unterminated.map fun literal =>
    .ofPosition (.unterminatedLiteral literal.quote) literal.opened 1

end BrickLint
