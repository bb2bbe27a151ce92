import BrickLint.Tools.Expand.Lexeme

/-!
# Output of an expansion

The expanded lexemes are written line by line. Lines that hold only blanks are left out, and the
next line is put back in its place: by line feeds when few are needed, and by a line marker
otherwise. The first line always gets a marker, and so does the first line from another file.
-/

namespace BrickLint.Expand

open Text

/-- How many line feeds are written before a line marker takes their place. -/
def maxLineFeeds : Nat :=
  6

/-- The name under which a marker announces the source. -/
def sourceName : String :=
  "<nxc>"

/-- The marker that announces the number of the next line and its file. -/
def lineMarkerText (line : Nat) (source : String) : List Char :=
  "#line ".toList ++ (toString line).toList ++ " \"".toList ++ source.toList ++ "\"\n".toList

/-- Cuts expanded lexemes into lines. A line ends with the first lexeme that starts with a line
feed. -/
def outputLines (line : List Lexeme) : List Lexeme → List (List Lexeme)
  | [] => if line.isEmpty then [] else [line.reverse]
  | l :: rest =>
    if l.text.head? = some '\n' then (l :: line).reverse :: outputLines [] rest
    else outputLines (l :: line) rest

/-- A blank that is not the end of a line. -/
def isInnerBlank (l : Lexeme) : Bool :=
  l.kind == .blank && l.text.head?.any (· != '\n')

/-- What happens to the next lexeme when line joins are dropped. -/
inductive JoinStep where
  /-- It goes if it is a join. -/
  | look
  /-- It goes: it is the blank behind a join. -/
  | drop
  /-- It stays, even if it is a join. -/
  | keep

/-- Leaves only the first character of a lexeme that is one of the given ones. -/
def shorten (narrowed : List (Option Nat)) (l : Lexeme) : Lexeme :=
  if l.occurrence.isSome && narrowed.contains l.occurrence then { l with text := l.text.take 1 }
  else l

/-- Drops the line joins of a line. A join between two blanks goes together with the second one, and
only the first character of the first one is left, here and at all its places in the line. The
lexeme behind what was dropped always stays. The lexemes that are done are listed latest first, and
`narrowed` tells which blanks are left with one character. -/
def dropJoins (step : JoinStep) (narrowed : List (Option Nat)) (done : List Lexeme) :
    List Lexeme → List Lexeme
  | [] => done.reverse.map (shorten narrowed)
  | l :: rest =>
    match step with
    | .keep => dropJoins .look narrowed (l :: done) rest
    | .drop => dropJoins .keep narrowed done rest
    | .look =>
      if l.kind ≠ .lineJoin then dropJoins .look narrowed (l :: done) rest
      else
        match done with
        | before :: earlier =>
          if isInnerBlank before && rest.head?.any isInnerBlank then
            let first := { before with text := before.text.take 1 }
            dropJoins .drop (before.occurrence :: narrowed) (first :: earlier) rest
          else dropJoins .keep narrowed done rest
        | [] => dropJoins .keep narrowed [] rest

/-- Whether a lexeme shows nothing but blank space. -/
def isGap (l : Lexeme) : Bool :=
  l.kind == .blank || l.text.isEmpty

/-- Keeps the last lexeme of each run of blank ones. -/
def lastGaps : List Lexeme → List Lexeme
  | [] => []
  | l :: rest => if isGap l && rest.head?.any isGap then lastGaps rest else l :: lastGaps rest

/-- Keeps the last lexeme of each run of blank ones behind the indentation. -/
def collapseGaps (line : List Lexeme) : List Lexeme :=
  line.takeWhile isGap ++ lastGaps (line.dropWhile isGap)

/-- What the writer remembers between two lines. -/
structure Writer where
  /-- The number of the last row of the last line that was written, and the file of that line, if
  there was one. -/
  last : Option (Nat × String) := none
  /-- How many blank lines have been left out since. -/
  blankLines : Nat := 0

/-- What is written before a line with the given number. -/
def Writer.lead (w : Writer) (line : Nat) (source : String) : List Char :=
  match w.last with
  | none => lineMarkerText line source
  | some (last, lastSource) =>
    if lastSource ≠ source ∨ maxLineFeeds < w.blankLines ∨ maxLineFeeds < line - last - 1 then
      lineMarkerText line source
    else List.replicate (line - last - 1) '\n'

/-- How many rows a line has besides its first one. Only comments go over several rows. -/
def extraRows (line : List Lexeme) : Nat :=
  (lexemesText (line.filter fun l => l.kind == .blockComment)).count '\n'

/-- Writes lines of lexemes. -/
def writeLines (w : Writer) : List (List Lexeme) → List Char
  | [] => []
  | line :: rest =>
    if line.all fun l => l.isSpace then
      let feeds := (line.getLast?.elim [] (·.text)).count '\n'
      writeLines { w with blankLines := w.blankLines + feeds } rest
    else
      let line := collapseGaps (dropJoins .look [] [] line)
      let number := line.head?.elim 0 (·.line)
      let source := line.head?.elim sourceName (·.source)
      w.lead number source ++ lexemesText line ++
        writeLines ⟨some (number + extraRows line, source), 0⟩ rest

/-- The text of expanded lexemes. -/
def render (lexemes : List Lexeme) : List Char :=
  writeLines {} (outputLines [] lexemes)

end BrickLint.Expand
