import BrickLint.Catalog
import BrickLint.Config
import BrickLint.Diagnostic.Finding
import BrickLint.Directive.Layout
import BrickLint.Header

/-!
# Function table

The headers of a source are collected before anything is checked, so a function may be called before
it is defined. Two definitions of one function conflict unless both stand under conditions, and a
prototype conflicts with nothing.
-/

namespace BrickLint

open Text

/-- A declared function (`FunctionDecl`). -/
structure FunctionDecl where
  /-- Its name. -/
  name : String
  /-- The line of its header, counted from zero. -/
  line : Nat
  /-- The column of its name, counted from zero. -/
  column : Nat
  /-- Whether its header stands under a condition. -/
  conditional : Bool
  /-- Whether its header is a prototype. -/
  isPrototype : Bool
  deriving DecidableEq, Repr

/-- The functions collected so far, and what was objected to. -/
structure FunctionTable where
  /-- The functions, in the order of their first headers. -/
  functions : List FunctionDecl := []
  /-- The findings, in order. -/
  findings : List Finding := []
  deriving DecidableEq, Repr

/-- The finding about the name of a function. -/
def FunctionDecl.finding (decl : FunctionDecl) (cause : Cause) : Finding :=
  ⟨cause, decl.line, decl.column, decl.name.length⟩

namespace FunctionTable

/-- The function of a name. -/
def find? (table : FunctionTable) (name : String) : Option FunctionDecl :=
  table.functions.find? fun decl => decl.name == name

/-- Whether a function is in the table. -/
def contains (table : FunctionTable) (name : String) : Bool :=
  table.functions.any fun decl => decl.name == name

/-- Puts a function in the place of the one of the same name. -/
def replace (table : FunctionTable) (decl : FunctionDecl) : FunctionTable :=
  { table with
    functions := table.functions.map fun old => if old.name = decl.name then decl else old }

/-- Adds a finding. -/
def report (table : FunctionTable) (finding : Finding) : FunctionTable :=
  { table with findings := table.findings ++ [finding] }

/-- Adds the first header of a function. A name that hides a built-in one is reported on request. -/
def addFirst (catalog : Catalog) (config : Config) (table : FunctionTable) (decl : FunctionDecl) :
    FunctionTable :=
  let table := { table with functions := table.functions ++ [decl] }
  if config.warnOnShadowing ∧ decl.name ≠ "main" ∧ catalog.isFunction decl.name then
    table.report (decl.finding (.functionShadowsBuiltin decl.name))
  else table

/-- Adds a second definition of a function. -/
def addDefinition (table : FunctionTable) (existing decl : FunctionDecl) : FunctionTable :=
  let table :=
    if !existing.conditional && !decl.conditional then
      table.report (decl.finding (.functionRedeclared decl.name existing.line))
    else if !existing.conditional || !decl.conditional then
      table.report (decl.finding (.functionConflict decl.name existing.line))
    else table
  if existing.conditional && !decl.conditional then table.replace decl else table

/-- Adds a header (`_register_function`). A definition takes the place of a prototype. -/
def add (catalog : Catalog) (config : Config) (table : FunctionTable) (decl : FunctionDecl) :
    FunctionTable :=
  match table.find? decl.name with
  | none => table.addFirst catalog config decl
  | some existing =>
    if existing.isPrototype && !decl.isPrototype then table.replace decl
    else if existing.isPrototype || decl.isPrototype then table
    else table.addDefinition existing decl

end FunctionTable

/-- The function that a line of code declares. -/
def functionOfLine? (types : List String) (line : CodeLine) : Option FunctionDecl :=
  (matchHeader? types line.text).map fun header =>
    ⟨header.name, line.number, header.column, !line.path.isEmpty, header.isPrototype line.text⟩

/-- The functions of the lines of code, for given user types (`_collect_declarations`). -/
def collectFunctions (catalog : Catalog) (config : Config) (userTypes : List String)
    (code : List CodeLine) : FunctionTable :=
  (code.filterMap (functionOfLine? (variableTypes ++ functionTypes ++ userTypes))).foldl
    (FunctionTable.add catalog config) {}

end BrickLint
