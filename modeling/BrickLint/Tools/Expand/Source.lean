import BrickLint.Directive
import BrickLint.Tools.Expand.Condition
import BrickLint.Tools.Expand.Inclusion
import BrickLint.FileStore

/-!
# Expansion of a source

A source is read line by line. Directives change the definitions and decide which lines are left
out; all other lines are collected and expanded together before the definitions change. The lines of
an included file are read in the place of its inclusion. The expanded text carries line markers,
from which the line of the source can be found for each of its lines.

The analysis takes expansion as a parameter, and its results hold for every one. The one given here
is to run it with.
-/

namespace BrickLint.Expand

open Text

/-- Why a source cannot be expanded. -/
inductive Fault where
  /-- A part is missing without which the rest of the source has no meaning: the operand of a
  directive, or the characters of joined lexemes. -/
  | missingOperand
  /-- An inclusion names a file in a way that no file can be named. -/
  | invalidPath
  /-- The bytes of an included file are no text. -/
  | undecodable
  /-- Files include each other without end. -/
  | endless
  deriving DecidableEq, Repr

/-- The directives that are followed and change what comes next. -/
def directiveNames : List String :=
  ["define", "undef", "ifdef", "ifndef", "if", "elif", "else", "endif"]

/-- The parts of a directive line. -/
structure DirectiveLine where
  /-- All lexemes before the arguments. -/
  lead : List Lexeme
  /-- The word that names the directive. -/
  name : String
  /-- The arguments. -/
  arguments : List Lexeme
  /-- The blanks behind the arguments. -/
  tail : List Lexeme

/-- The lexemes of a directive line. -/
def DirectiveLine.lexemes (line : DirectiveLine) : List Lexeme :=
  line.lead ++ line.arguments ++ line.tail

/-- The text of the first argument. -/
def DirectiveLine.operand (line : DirectiveLine) : Except Fault String :=
  match line.arguments with
  | [] => .error .missingOperand
  | l :: _ => .ok (String.ofList l.text)

/-- Adds the definition that lexemes spell. -/
def Definitions.addDefinition (defs : Definitions) (lexemes : List Lexeme) :
    Except Fault Definitions :=
  match readDefinition lexemes with
  | .ok d => .ok (defs.put d)
  | .error .ignored => .ok defs
  | .error .fatal => .error .missingOperand

/-- A definition that stands for one lexeme. -/
def Definition.literal (name : String) (kind : LexemeKind) (text : String) : Definition :=
  .ofObject name [{ kind := kind, text := text.toList, line := 1 }]

/-- The definition that tells the name of a file. -/
def fileDefinition (files : FileStore) (place : List String) : Definition :=
  .literal "__FILE__" .string ("\"" ++ announcedName files place ++ "\"")

/-- A conditional group around the current line. -/
structure OpenGroup where
  /-- Whether the lines around the group are kept. -/
  kept : Bool
  /-- Whether a branch of the group around this one has been taken. -/
  taken : Bool

/-- The state between two lines. -/
structure State where
  /-- The definitions that hold. -/
  defs : Definitions
  /-- What is passed along from one expansion to the next. -/
  tally : Tally := {}
  /-- The open groups, innermost first. -/
  groups : List OpenGroup := []
  /-- Whether the current line is kept. -/
  kept : Bool := true
  /-- Whether a branch of the innermost group has been taken. -/
  taken : Bool := false
  /-- Where the file stands that is being read. -/
  place : List String
  /-- The directories in which a quoted file is looked for, the first one first. -/
  directories : List (List String)
  /-- Where the files stand that are wanted only once. -/
  once : List (List String) := []
  /-- Whether nothing but remarks has been read. -/
  atFront : Bool := true
  /-- The lines that wait for their expansion, latest first. -/
  waiting : List (List Lexeme) := []
  /-- What has been expanded, latest first. -/
  expanded : List (List Lexeme) := []

namespace State

/-- Expands lexemes under the present definitions. -/
def expansion (s : State) (lexemes : List Lexeme) (ledger : Ledger) :
    Except Fault Expanded :=
  (expand? s.defs lexemes ledger).elim (.error .missingOperand) .ok

/-- Writes lexemes out under the name of their file. -/
def emit (s : State) (files : FileStore) (lexemes : List Lexeme) : State :=
  let source := announcedName files s.place
  { s with expanded := (lexemes.map fun l => { l with source := source }) :: s.expanded }

/-- Expands what is waiting. -/
def flush (s : State) (files : FileStore) : Except Fault State := do
  let expansion ← s.expansion s.waiting.reverse.flatten (.ofTally s.tally)
  return { s with waiting := [], tally := expansion.ledger.toTally }.emit files expansion.lexemes

/-- Reads a line that is no directive. Of a line that is left out only the blanks stay. -/
def text (s : State) (line : List Lexeme) : State :=
  let s := { s with atFront := s.atFront && line.all Lexeme.isSpace }
  let line := if s.kept then line else line.filter Lexeme.isSpace
  { s with waiting := line :: s.waiting }

/-- Passes a line on without expanding it. -/
def passOn (s : State) (files : FileStore) (line : List Lexeme) : Except Fault State := do
  return { (← s.flush files).emit files line with atFront := false }

/-- Opens a group whose first branch is kept if `condition` holds. -/
def openGroup (s : State) (condition : Bool) : State :=
  let group : OpenGroup := ⟨s.kept, s.taken⟩
  { s with groups := group :: s.groups, kept := s.kept && condition, taken := condition }

/-- Moves on to the next branch of the innermost group, which is kept if no branch has been taken
and `condition` holds. -/
def nextBranch (s : State) (condition : State → Except Fault (Bool × State)) :
    Except Fault State := do
  match s.groups with
  | [] => return s
  | group :: _ =>
    if !group.kept then return s
    else if s.kept then return { s with kept := false }
    else if s.taken then return s
    else
      let (holds, s) ← condition s
      return if holds then { s with kept := true, taken := true } else s

/-- Closes the innermost group. -/
def closeGroup (s : State) : State :=
  match s.groups with
  | [] => s
  | group :: groups => { s with groups := groups, kept := group.kept, taken := group.taken }

/-- Evaluates a condition. -/
def evaluate (condition : List Lexeme) (s : State) : Except Fault (Bool × State) :=
  match holds? s.defs condition s.tally with
  | some (answer, tally) => .ok (answer, { s with tally := tally })
  | none => .error .missingOperand

/-- Adds a definition. -/
def define (s : State) (lexemes : List Lexeme) : Except Fault State := do
  return { s with defs := ← s.defs.addDefinition lexemes }

/-- Whether the condition of a group at the front of the source asks for a name that is not
there. -/
def isCutGuard (condition : List Lexeme) : Bool :=
  let textAt := fun index => condition[index]?.map fun l : Lexeme => String.ofList l.text
  condition.isEmpty ||
    (textAt 0 == some "!" &&
      (condition.length == 1 ||
        (textAt 1 == some "defined" &&
          (condition.length == 2 || (textAt 2 == some "(" && condition.length == 3)))))

/-- What becomes of an inclusion. -/
inductive Target where
  /-- Nothing. -/
  | nothing
  /-- It is passed on. -/
  | passed
  /-- A file is read. -/
  | file (place : List String) (bytes : List UInt8)

/-- Looks for a file in directories. A file that is wanted only once is not read again. -/
def lookFor (s : State) (files : FileStore) (name : List Char) : List (List String) → Target
  | [] => .passed
  | directory :: rest =>
    let place := placeIn files directory name
    if s.once.contains place then .nothing
    else
      match bytesAt? files place with
      | some bytes => .file place bytes
      | none => s.lookFor files name rest

/-- What becomes of an inclusion of a file. -/
def target (s : State) (files : FileStore) (file : FileName) : Except Fault Target :=
  let find := fun name directories =>
    match s.lookFor files name directories with
    | .nothing => .ok .nothing
    | found => if FileStore.isValidPath name then .ok found else .error .invalidPath
  match file with
  | .missing | .unclosed => .ok .nothing
  | .other => .ok .passed
  | .quoted name => find name s.directories
  | .angled name => find name [files.directory]

/-- Finds out how an inclusion names its file. Arguments that name none are expanded, and once more
if they name none then. -/
def includedFile (s : State) (arguments : List Lexeme) (ledger : Ledger) :
    Except Fault (FileName × Ledger) := do
  match FileName.ofArguments arguments with
  | .other =>
    let first ← s.expansion arguments ledger
    let arguments := stripLexemes first.lexemes
    match FileName.ofArguments arguments with
    | .other =>
      let second ← s.expansion arguments first.ledger
      match FileName.ofArguments (stripLexemes second.lexemes) with
      | .missing => throw .missingOperand
      | file => return (file, second.ledger)
    | file => return (file, first.ledger)
  | file => return (file, ledger)

/-- Reads an inclusion. The expansion of its arguments only serves to find the file, but what is
learnt about them is shown when the line is passed on. The definitions that hold behind the file are
those that it leaves, but for its name. -/
def inclusion (readText : List Char → State → Except Fault State) (files : FileStore) (s : State)
    (line : DirectiveLine) : Except Fault State := do
  let s ← s.flush files
  let (arguments, ledger) := (Ledger.ofTally s.tally).registerAll line.arguments
  let (file, ledger) ← s.includedFile arguments ledger
  let s := { s with tally := ledger.toTally }
  match ← s.target files file with
  | .nothing => return s
  | .passed => s.passOn files { line with arguments := arguments.map ledger.settle }.lexemes
  | .file place bytes =>
    let text ← (textOf? bytes).elim (.error .undecodable) .ok
    let inner ← readText text
      { defs := s.defs.put (fileDefinition files place), tally := s.tally, place := place
        directories := place.dropLast :: s.directories, once := s.once, expanded := s.expanded }
    return { s with
      defs := inner.defs.put (fileDefinition files s.place)
      tally := inner.tally
      once := inner.once
      expanded := inner.expanded }

/-- Follows a directive. -/
def directive (readText : List Char → State → Except Fault State) (files : FileStore) (s : State)
    (line : DirectiveLine) : Except Fault State := do
  let name := line.name
  let arguments := line.arguments
  let front := s.atFront && s.groups.isEmpty
  if name = "include" then if s.kept then s.inclusion readText files line else return s
  else if name = "pragma" then
    if (← line.operand) = "once" then
      return if s.kept then { s with once := s.place :: s.once } else s
    else if s.kept then s.passOn files line.lexemes
    else return s
  else if !directiveNames.contains name then
    if s.kept ∧ name ≠ "error" ∧ name ≠ "warning" then s.passOn files line.lexemes else return s
  else
    let s := { s with atFront := false }
    if name = "define" then if s.kept then (← s.flush files).define arguments else return s
    else if name = "undef" then
      if s.kept then
        let s ← s.flush files
        return { s with defs := s.defs.erase (← line.operand) }
      else return s
    else if name = "ifdef" then
      if s.kept then return s.openGroup (s.defs.contains (← line.operand))
      else return s.openGroup s.taken
    else if name = "ifndef" then
      if s.kept || front then
        let key ← line.operand
        return s.openGroup (if s.kept then !s.defs.contains key else s.taken)
      else return s.openGroup s.taken
    else if name = "if" then
      if front && isCutGuard arguments then throw .missingOperand
      else if s.kept then
        let (answer, s) ← evaluate arguments s
        return s.openGroup answer
      else return s.openGroup s.taken
    else if name = "elif" then s.nextBranch (evaluate arguments)
    else if name = "else" then s.nextBranch fun s => .ok (true, s)
    else return s.closeGroup

/-- Reads a line. A lone hash is dropped. -/
def line (readText : List Char → State → Except Fault State) (files : FileStore) (s : State)
    (line : List Lexeme) : Except Fault State :=
  let indent := line.takeWhile Lexeme.isSpace
  match line.dropWhile Lexeme.isSpace with
  | [] => .ok (s.text line)
  | hash :: rest =>
    if !hash.hasText "#" then .ok (s.text line)
    else
      match rest.dropWhile Lexeme.isSpace with
      | [] => .ok s
      | name :: behind =>
        let gap := rest.takeWhile Lexeme.isSpace
        let blanks := behind.takeWhile Lexeme.isSpace
        let arguments := stripLexemes behind
        s.directive readText files
          { lead := indent ++ hash :: gap ++ name :: blanks
            name := String.ofList name.text
            arguments := arguments
            tail := behind.drop (blanks.length + arguments.length) }

end State

/-- The definitions that hold before any other: the date and the time, which are not told, and a
name which tells that the text is being expanded. -/
def standardDefinitions : Definitions :=
  [.literal "__PCPP__" .integer "1", .literal "__DATE__" .string "\"\"",
    .literal "__TIME__" .string "\"\""]

/-- The definitions that hold before a source is read: the standard ones, and then the given ones,
which are read like the argument of a definition directive. -/
def initialDefinitions (defines : List (String × String)) : Except Fault Definitions :=
  defines.foldlM (fun (defs : Definitions) (name, value) =>
    defs.addDefinition (lexemesFrom 0 1 (name.toList ++ ' ' :: value.toList))) standardDefinitions

/-- Reads a text to its end. Files are included in files up to a given depth. -/
def readText (files : FileStore) : Nat → List Char → State → Except Fault State
  | 0, _, _ => .error .endless
  | depth + 1, text, s => do
    (← (sourceLines text).foldlM (State.line (readText files depth) files) s).flush files

/-- How deep files are included in files before that counts as endless. -/
def maxDepth : Nat :=
  100

/-- Expands a source under given definitions, with the files as they are. The name of the source is
defined last. -/
def expandSource (files : FileStore) (defines : List (String × String)) (source : List Char) :
    Except Fault (List Char) := do
  let place := placeIn files files.directory sourceName.toList
  let defs ← initialDefinitions defines
  let s ← readText files maxDepth source
    { defs := defs.put (fileDefinition files place), place := place
      directories := [files.directory] }
  return render s.expanded.reverse.flatten

end BrickLint.Expand
