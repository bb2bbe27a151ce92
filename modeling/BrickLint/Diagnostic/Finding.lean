import BrickLint.Bracket
import BrickLint.Diagnostic
import BrickLint.Region

/-!
# Findings

A finding is the cause of a diagnostic together with its place. Severity, wording and the name of
the pass depend on the cause alone, so the passes report causes and never words.
-/

namespace BrickLint

open Text

/-- Everything that the passes can object to. -/
inductive Cause where
  /-- A literal ends without its closing quote. -/
  | unterminatedLiteral (quote : Quote)
  /-- A line has more than the permitted number of characters. -/
  | lineTooLong (limit : Int)
  /-- An indentation holds both tabs and spaces. -/
  | mixedIndentation
  /-- Two equals signs are separated by one blank. -/
  | doubledEquals
  /-- A line ends a statement without a semicolon. -/
  | missingSemicolon
  /-- A closing bracket has no opening one. -/
  | unmatchedCloser (bracket : Bracket)
  /-- A closing bracket meets an opening one of another kind, opened on the zero-based `line`. -/
  | mismatchedCloser (bracket opened : Bracket) (line : Nat)
  /-- An opening bracket is never closed. -/
  | unclosedOpener (bracket : Bracket)
  /-- A function is defined twice, first on the zero-based `line`. -/
  | functionRedeclared (name : String) (line : Nat)
  /-- A function is defined twice, once under a condition. -/
  | functionConflict (name : String) (line : Nat)
  /-- A function has the name of a built-in function. -/
  | functionShadowsBuiltin (name : String)
  /-- A variable is declared twice in one scope, first on the zero-based `line`. -/
  | variableRedeclared (name : String) (line : Int)
  /-- A variable has the name of a built-in function. -/
  | variableShadowsFunction (name : String)
  /-- A variable has the name of a built-in constant. -/
  | variableShadowsConstant (name : String)
  /-- A name is declared nowhere. -/
  | undefinedVariable (name : String)
  /-- A braced initializer is indexed. -/
  | indexedInitializer
  /-- A called function is unknown, and a built-in one has a similar name. -/
  | unknownCall (name best : String)
  /-- A variable is never read. -/
  | unusedVariable (name : String)
  /-- A pass failed. -/
  | internalFailure (message : String)
  /-- The grammar expects a node that is not there. -/
  | missingNode (type : String)
  /-- The grammar has no place for a piece of text. -/
  | unexpectedText (near : String)
  /-- The program has no entry point. -/
  | noEntryPoint
  deriving DecidableEq, Repr

/-- A text in single quotes. -/
def quoted (text : String) : String :=
  "'" ++ text ++ "'"

/-- A character in single quotes. -/
def quotedChar (c : Char) : String :=
  quoted c.toString

/-- The wording of a cause. Lines are counted from one. -/
def Cause.message : Cause → String
  | .unterminatedLiteral .double => "Unterminated string literal"
  | .unterminatedLiteral .single => "Unterminated character literal"
  | .lineTooLong limit => s!"Line too long (>{limit} characters)"
  | .mixedIndentation => "Mixed tabs and spaces for indentation"
  | .doubledEquals => "Invalid assignment operator \"= =\", did you mean \"==\" or \"=\"?"
  | .missingSemicolon => "Missing semicolon"
  | .unmatchedCloser bracket =>
    "Closing " ++ bracket.name ++ " " ++ quotedChar bracket.closer ++
      " without matching opening " ++ quotedChar bracket.opener
  | .mismatchedCloser bracket opened line =>
    "Mismatched " ++ quotedChar bracket.closer ++ ": expected " ++ quotedChar opened.closer ++
      " to close " ++ quotedChar opened.opener ++ s!" opened at line {line + 1}"
  | .unclosedOpener bracket =>
    "Unclosed " ++ quotedChar bracket.opener ++ ": opening " ++ bracket.name ++
      " without matching " ++ quotedChar bracket.closer
  | .functionRedeclared name line =>
    "Function/task " ++ quoted name ++ s!" already declared at line {line + 1}"
  | .functionConflict name line =>
    "Function/task " ++ quoted name ++ s!" conflicts with declaration at line {line + 1}"
  | .functionShadowsBuiltin name => "Function " ++ quoted name ++ " shadows a built-in function"
  | .variableRedeclared name line =>
    "Variable " ++ quoted name ++ s!" already declared at line {line + 1}"
  | .variableShadowsFunction name => "Variable " ++ quoted name ++ " shadows a built-in function"
  | .variableShadowsConstant name => "Variable " ++ quoted name ++ " shadows a built-in constant"
  | .undefinedVariable name => "Variable " ++ quoted name ++ " is not defined"
  | .indexedInitializer => "Array access on braced initializer is not allowed"
  | .unknownCall name best =>
    "Function " ++ quoted name ++ " is not defined. Did you mean " ++ quoted best ++ "?"
  | .unusedVariable name => "Variable " ++ quoted name ++ " declared but never used"
  | .internalFailure message => "Internal error: " ++ message
  | .missingNode type => "Grammar: missing " ++ quoted type
  | .unexpectedText near => "Grammar: unexpected syntax near " ++ quoted near
  | .noEntryPoint => "No \"main\" function or task found"

/-- How serious a cause is. -/
def Cause.severity : Cause → Severity
  | .unterminatedLiteral _ | .unmatchedCloser _ | .mismatchedCloser _ _ _ | .unclosedOpener _
  | .functionRedeclared _ _ | .functionConflict _ _ | .variableRedeclared _ _
  | .undefinedVariable _ | .indexedInitializer | .internalFailure _ => .error
  | .lineTooLong _ | .mixedIndentation | .doubledEquals | .missingSemicolon
  | .functionShadowsBuiltin _ | .variableShadowsFunction _ | .variableShadowsConstant _
  | .unknownCall _ _ | .unusedVariable _ => .warning
  | .missingNode _ | .unexpectedText _ | .noEntryPoint => .hint

/-- The name of the pass that looks for a cause. -/
def Cause.source : Cause → String
  | .unterminatedLiteral _ | .doubledEquals | .missingSemicolon => "syntax-checker"
  | .lineTooLong _ | .mixedIndentation => "style-checker"
  | .unmatchedCloser _ | .mismatchedCloser _ _ _ | .unclosedOpener _ => "balance-checker"
  | .functionRedeclared _ _ | .functionConflict _ _ | .functionShadowsBuiltin _
  | .variableRedeclared _ _ | .variableShadowsFunction _ | .variableShadowsConstant _
  | .undefinedVariable _ | .indexedInitializer | .unknownCall _ _ | .unusedVariable _ =>
    "semantic-analyzer"
  | .internalFailure _ => "nxcheck"
  | .missingNode _ | .unexpectedText _ | .noEntryPoint => "grammar-check"

/-- A cause and the characters it is about. -/
structure Finding where
  /-- What is wrong. -/
  cause : Cause
  /-- The line, counted from zero; a negative line counts as zero. -/
  line : Int
  /-- The column, counted from zero; a negative column counts as zero. -/
  column : Int
  /-- How many characters are concerned; at least one is. -/
  length : Int := 1
  deriving DecidableEq, Repr

/-- The diagnostic that shows a finding. -/
def Finding.toDiagnostic (f : Finding) : Diagnostic :=
  .at f.cause.message f.cause.severity f.line f.column f.length f.cause.source

/-- Whether the finding is an error. -/
def Finding.isError (f : Finding) : Bool :=
  f.cause.severity == .error

/-- A finding at a position. -/
def Finding.ofPosition (cause : Cause) (p : Position) (length : Nat) : Finding :=
  ⟨cause, p.line, p.column, length⟩

end BrickLint
