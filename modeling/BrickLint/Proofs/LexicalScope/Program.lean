import BrickLint.Catalog
import BrickLint.Proofs.Token
import BrickLint.Scope

/-!
# Programs with nested scopes

A fragment of the language in which everything that concerns scopes occurs: variables of the whole
program, functions with parameters, blocks, and counting loops, nested to any depth. A program is
printed one statement per line, and every name has a known line and column in the printed text.
-/

namespace BrickLint.LexicalScope

open Text

/-- A list of statements: nothing, or a statement and what follows it. -/
inductive Body where
  /-- No statement. -/
  | done
  /-- The declaration `int first, ...;` of one or more variables. -/
  | declare (first : String) (more : List String) (rest : Body)
  /-- The assignment `target = source;`. -/
  | assign (target source : String) (rest : Body)
  /-- Statements in braces. -/
  | block (body rest : Body)
  /-- A counting loop with the counter declared in its header. -/
  | loop (counter : String) (body rest : Body)
  deriving DecidableEq, Repr

/-- A part of a program outside all functions. -/
inductive Item where
  /-- The declaration `int first, ...;` of one or more variables. -/
  | declare (first : String) (more : List String)
  /-- A function without a result. -/
  | function (name : String) (parameters : List String) (body : Body)
  deriving DecidableEq, Repr

/-- A program. -/
abbrev Program := List Item

/-- The blanks at the start of a row. -/
def margin (width depth : Nat) : List Char :=
  List.replicate (width * depth) ' '

/-- Names with a separator between them. -/
def joinNames (separator : String) (names : List String) : List Char :=
  separator.toList.intercalate (names.map String.toList)

/-- The declaration of some variables. -/
def declarationText (names : List String) : List Char :=
  "int ".toList ++ joinNames ", " names ++ [';']

/-- The assignment of one variable to another. -/
def assignmentText (target source : String) : List Char :=
  target.toList ++ " = ".toList ++ source.toList ++ [';']

/-- The header of a counting loop. -/
def loopText (counter : String) : List Char :=
  "for (int ".toList ++ counter.toList ++ " = 0; ".toList ++ counter.toList ++ " < 1; ".toList ++
    counter.toList ++ "++) \x7b".toList

/-- The parameters of a function. -/
def parameterText (parameters : List String) : List Char :=
  if parameters.isEmpty then [] else "int ".toList ++ joinNames ", int " parameters

/-- The header of a function. -/
def headerText (name : String) (parameters : List String) : List Char :=
  "void ".toList ++ name.toList ++ ['('] ++ parameterText parameters ++ ") \x7b".toList

/-- The rows of a list of statements. -/
def Body.rows (width depth : Nat) : Body → List (List Char)
  | done => []
  | declare first more rest =>
    (margin width depth ++ declarationText (first :: more)) :: rest.rows width depth
  | assign target source rest =>
    (margin width depth ++ assignmentText target source) :: rest.rows width depth
  | block body rest =>
    (margin width depth ++ ['{']) :: body.rows width (depth + 1) ++
      (margin width depth ++ ['}']) :: rest.rows width depth
  | loop counter body rest =>
    (margin width depth ++ loopText counter) :: body.rows width (depth + 1) ++
      (margin width depth ++ ['}']) :: rest.rows width depth

/-- The rows of a part of a program. -/
def Item.rows (width : Nat) : Item → List (List Char)
  | declare first more => [declarationText (first :: more)]
  | function name parameters body =>
    headerText name parameters :: body.rows width 1 ++ [['}']]

/-- The rows of a program. -/
def Program.rows (width : Nat) (p : Program) : List (List Char) :=
  p.flatMap (Item.rows width)

/-- The text of a program, in which every nested statement is indented by `width` more blanks. -/
def Program.text (width : Nat) (p : Program) : List Char :=
  (p.rows width).flatMap (· ++ ['\n'])

/-- The variables that a list of statements mentions, with repetitions. -/
def Body.names : Body → List String
  | done => []
  | declare first more rest => first :: more ++ rest.names
  | assign target source rest => target :: source :: rest.names
  | block body rest => body.names ++ rest.names
  | loop counter body rest => counter :: body.names ++ rest.names

/-- The variables that a part of a program mentions, with repetitions. -/
def Item.names : Item → List String
  | declare first more => first :: more
  | function _ parameters body => parameters ++ body.names

/-- The function that a part of a program defines. -/
def Item.function? : Item → Option String
  | declare _ _ => none
  | function name _ _ => some name

/-- The functions of a program, in order. -/
def Program.functionNames (p : Program) : List String :=
  p.filterMap Item.function?

/-- The variables that a program mentions, with repetitions. -/
def Program.names (p : Program) : List String :=
  p.flatMap Item.names

/-- A name that may be given to a function: an identifier that is no keyword. -/
def IsFunctionName (catalog : Catalog) (name : String) : Prop :=
  isIdentifier name ∧ name ∉ Catalog.keywordNames ∧ ¬catalog.isKeyword name

/-- Whether a function may have a name can be decided. -/
instance (catalog : Catalog) (name : String) : Decidable (IsFunctionName catalog name) :=
  inferInstanceAs (Decidable (_ ∧ _))

/-- A name that may be given to a variable: an identifier that is no keyword and is not
predefined. -/
def IsVariableName (catalog : Catalog) (name : String) : Prop :=
  isIdentifier name ∧ name ∉ Catalog.keywordNames ∧ ¬catalog.isKnown name

/-- Whether a variable may have a name can be decided. -/
instance (catalog : Catalog) (name : String) : Decidable (IsVariableName catalog name) :=
  inferInstanceAs (Decidable (_ ∧ _))

/-- The names of a program are well chosen: no function is defined twice, and no variable has the
name of a function. -/
structure Program.WellNamed (catalog : Catalog) (p : Program) : Prop where
  /-- No function is defined twice. -/
  nodup : p.functionNames.Nodup
  /-- The functions may be called what they are called. -/
  functions : ∀ name ∈ p.functionNames, IsFunctionName catalog name
  /-- The variables may be called what they are called. -/
  variableNames : ∀ name ∈ p.names, IsVariableName catalog name
  /-- No variable has the name of a function. -/
  apart : ∀ name ∈ p.names, name ∉ p.functionNames

end BrickLint.LexicalScope
