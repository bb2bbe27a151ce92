import BrickLint.Text.Digit
import BrickLint.Text.Lines
import BrickLint.Text.Word

/-!
# Lexemes

The text that is expanded is cut into lexemes. Nothing is lost: blanks and comments are lexemes too,
and a character that starts nothing else is a symbol of its own. Each lexeme knows the number of its
line, counted from one. Lexemes get an identity when they are expanded, so that the places of one
lexeme can be told from the places of equal ones.
-/

namespace BrickLint.Expand

open Text

/-- The kinds of lexeme. -/
inductive LexemeKind where
  /-- A run of spaces and tabs, or one line feed. -/
  | blank
  /-- A backslash at the end of a line, which joins it to the next one. -/
  | lineJoin
  /-- An identifier. -/
  | ident
  /-- A whole number. -/
  | integer
  /-- A string literal. -/
  | string
  /-- A character literal. -/
  | char
  /-- A comment with a closing marker. -/
  | blockComment
  /-- A comment that runs to the end of its line. -/
  | lineComment
  /-- An operator or any other character. -/
  | symbol
  deriving DecidableEq, Repr

/-- A piece of the text that is expanded. -/
structure Lexeme where
  /-- Its kind. -/
  kind : LexemeKind
  /-- Its characters. -/
  text : List Char
  /-- The number of its line, counted from one. -/
  line : Nat
  /-- The name of its file, which it gets when it is written out. -/
  source : String := ""
  /-- Which lexeme it is, the same at all places where an argument is used. -/
  occurrence : Option Nat := none
  /-- Which history it has. A joined lexeme has the history of its first part. -/
  lineage : Option Nat := none
  deriving DecidableEq, Repr

namespace Lexeme

/-- Blanks and line joins separate other lexemes. -/
def isSpace (l : Lexeme) : Bool :=
  l.kind == .blank || l.kind == .lineJoin

/-- Comments. -/
def isComment (l : Lexeme) : Bool :=
  l.kind == .blockComment || l.kind == .lineComment

/-- Whether a lexeme has the given text. -/
def hasText (l : Lexeme) (text : String) : Bool :=
  l.text == text.toList

/-- A line feed. -/
def isLineFeed (l : Lexeme) : Bool :=
  l.isSpace && l.text == ['\n']

/-- The operator that joins its two neighbours into one lexeme. -/
def isPaste (l : Lexeme) : Bool :=
  l.kind == .symbol && l.hasText "##"

end Lexeme

/-- The characters of a list of lexemes. -/
def lexemesText (lexemes : List Lexeme) : List Char :=
  lexemes.flatMap (·.text)

/-- Drops the blanks at both ends of a list of lexemes. -/
def stripLexemes (lexemes : List Lexeme) : List Lexeme :=
  dropEndWhile Lexeme.isSpace (lexemes.dropWhile Lexeme.isSpace)

/-- The length of a suffix that marks the type of a whole number. -/
def suffixLength (cs : List Char) : Nat :=
  match cs with
  | a :: b :: _ =>
    if (a.toLower = 'u' ∧ b.toLower = 'l') ∨ (a.toLower = 'l' ∧ b.toLower = 'u') then 2
    else if a.toLower = 'u' ∨ a.toLower = 'l' then 1
    else 0
  | [a] => if a.toLower = 'u' ∨ a.toLower = 'l' then 1 else 0
  | [] => 0

/-- Hexadecimal digits. -/
def isHexDigit (c : Char) : Bool :=
  c.isDigit || ('a' ≤ c && c ≤ 'f') || ('A' ≤ c && c ≤ 'F')

/-- The length of the digits of a whole number, a hexadecimal mark included. -/
def digitsLength (cs : List Char) : Nat :=
  match cs with
  | '0' :: x :: rest =>
    if (x = 'x' ∨ x = 'X') ∧ rest.head?.any isHexDigit then (rest.takeWhile isHexDigit).length + 2
    else (cs.takeWhile isDigitChar).length
  | _ => (cs.takeWhile isDigitChar).length

/-- The length of the rest of a quoted literal through its closing mark; a backslash takes the next
character with it. Only an escaped line feed may stand inside. -/
def quotedLength? (mark : Char) : List Char → Option Nat
  | [] => none
  | '\\' :: _ :: rest => (quotedLength? mark rest).map (· + 2)
  | c :: rest =>
    if c = mark then some 1
    else if c = '\\' ∨ c = '\n' then none
    else (quotedLength? mark rest).map (· + 1)

/-- The length of the rest of a comment through its closing marker. -/
def commentLength? : List Char → Option Nat
  | '*' :: '/' :: _ => some 2
  | _ :: rest => (commentLength? rest).map (· + 1)
  | [] => none

/-- The operators of more than one character, the longest first. -/
def longOperators : List String :=
  ["<<=", ">>=", "##", "->", "-=", "--", "<<", "<=", ">>", ">=", "||", "|=", "&&", "&=", "==",
    "!=", "*=", "/=", "+=", "++", "%="]

/-- The length of the symbol at the start of a text. -/
def symbolLength (cs : List Char) : Nat :=
  ((longOperators.find? fun operator => operator.toList.isPrefixOf cs).map (·.length)).getD 1

/-- Whether a backslash is the last character of its line, not counting blanks. -/
def joinsLine (rest : List Char) : Bool :=
  (rest.dropWhile fun c => c == ' ' || c == '\t').head? == some '\n'

/-- The kind and the length of the literal or comment at the start of a text. -/
def delimited? (cs : List Char) : Option (LexemeKind × Nat) :=
  match cs with
  | '"' :: rest => (quotedLength? '"' rest).map fun n => (.string, n + 1)
  | '\'' :: rest => (quotedLength? '\'' rest).map fun n => (.char, n + 1)
  | 'L' :: '\'' :: rest => (quotedLength? '\'' rest).map fun n => (.char, n + 2)
  | '/' :: '*' :: rest => (commentLength? rest).map fun n => (.blockComment, n + 2)
  | '/' :: '/' :: rest => some (.lineComment, (rest.takeWhile (· != '\n')).length + 2)
  | _ => none

/-- The kind and the length of the lexeme that starts with `c`. -/
def lexemeShape (c : Char) (rest : List Char) : LexemeKind × Nat :=
  if c = ' ' ∨ c = '\t' then (.blank, (rest.takeWhile fun d => d == ' ' || d == '\t').length + 1)
  else if c = '\n' then (.blank, 1)
  else if c = '\\' ∧ joinsLine rest then
    (.lineJoin, (rest.takeWhile (· != '\n')).length + 2)
  else if isDigitChar c then
    let digits := digitsLength (c :: rest)
    (.integer, digits + suffixLength ((c :: rest).drop digits))
  else
    match delimited? (c :: rest) with
    | some shape => shape
    | none =>
      if isIdentStart c then (.ident, (rest.takeWhile isWordChar).length + 1)
      else (.symbol, symbolLength (c :: rest))

/-- Drops line joins from the characters of a string literal; `skip` characters belong to one that
is being dropped. -/
def dropLineJoins (skip : Nat) : List Char → List Char
  | [] => []
  | c :: cs =>
    match skip with
    | remaining + 1 => dropLineJoins remaining cs
    | 0 =>
      if c = '\\' ∧ joinsLine cs then
        dropLineJoins ((cs.takeWhile (· != '\n')).length + 1) cs
      else c :: dropLineJoins 0 cs

/-- The characters that a lexeme stands for: a line join stands for the blanks in front of its line
feed, and a string literal holds none. -/
def lexemeText (kind : LexemeKind) (text : List Char) : List Char :=
  match kind with
  | .lineJoin => (text.drop 1).dropLast
  | .string => dropLineJoins 0 text
  | _ => text

/-- The lexemes of the rest of a text, whose next character stands on line `line`, where the next
`skip` characters belong to a lexeme that has been produced. -/
def lexemesFrom (skip line : Nat) : List Char → List Lexeme
  | [] => []
  | c :: cs =>
    let nextLine := if c = '\n' then line + 1 else line
    match skip with
    | remaining + 1 => lexemesFrom remaining nextLine cs
    | 0 =>
      let (kind, length) := lexemeShape c cs
      { kind := kind, text := lexemeText kind ((c :: cs).take length), line := line } ::
        lexemesFrom (length - 1) nextLine cs

/-- Cuts lexemes into lines, each of which ends with a line feed. A last line without one is given
one, on the line of its last lexeme. -/
def lexemeLinesFrom (line : List Lexeme) : List Lexeme → List (List Lexeme)
  | [] =>
    match line with
    | [] => []
    | last :: _ => [(({ last with kind := .blank, text := ['\n'] } : Lexeme) :: line).reverse]
  | l :: rest =>
    if l.isLineFeed then (l :: line).reverse :: lexemeLinesFrom [] rest
    else lexemeLinesFrom (l :: line) rest

/-- A comment counts as one blank: as a space, or as the line feed that ends it. -/
def blankComment (l : Lexeme) : Lexeme :=
  match l.kind with
  | .blockComment => { l with kind := .blank, text := [' '] }
  | .lineComment => { l with kind := .blank, text := ['\n'] }
  | _ => l

/-- Characters that three-character sequences starting with two question marks stand for. -/
def trigraphs : List (Char × Char) :=
  [('=', '#'), ('/', '\\'), ('\'', '^'), ('(', '['), (')', ']'), ('!', '|'), ('<', '{'), ('>', '}'),
    ('-', '~')]

/-- Replaces the three-character sequences; `skip` characters belong to one that was replaced. -/
def replaceTrigraphs (skip : Nat) : List Char → List Char
  | [] => []
  | c :: cs =>
    match skip with
    | remaining + 1 => replaceTrigraphs remaining cs
    | 0 =>
      match (if c = '?' ∧ cs.head? = some '?' then cs.tail.head?.bind (trigraphs.lookup ·)
        else none) with
      | some d => d :: replaceTrigraphs 2 cs
      | none => c :: replaceTrigraphs 0 cs

/-- The lines of a source as lists of lexemes, comments counting as blanks. Line breaks of every
kind end a line, and blanks at the end of a line are dropped. -/
def sourceLines (source : List Char) : List (List Lexeme) :=
  let rows := (visualLines (replaceTrigraphs 0 source)).map stripEnd
  let text := ['\n'].intercalate rows
  (lexemeLinesFrom [] (lexemesFrom 0 1 text)).map (·.map blankComment)

end BrickLint.Expand
