import BrickLint.Declaration.Report
import BrickLint.Proofs.LexicalScope.Program

/-!
# Lexical scoping by recursion

What lexical scoping says about a program, read off its tree. A scope is a list of variables in the
order of their declaration; the scopes around a statement are passed down the tree, innermost first.
A name is declared once per scope, a use stands for the earlier declaration in the innermost scope
that has one, and a variable is used if its name occurs free in what follows its declaration.
-/

namespace BrickLint.LexicalScope

/-- The variable of a name in a scope. -/
def lookup? (scope : List Variable) (name : String) : Option Variable :=
  scope.find? fun v => v.name == name

/-- Whether a scope holds a name. -/
def holds (scope : List Variable) (name : String) : Bool :=
  (lookup? scope name).isSome

/-- The variables of consecutive declarators on a line, where `gap` characters separate a name from
the next one. -/
def declarators (line gap : Nat) (isParameter : Bool) (column : Nat) :
    List String → List Variable
  | [] => []
  | name :: rest =>
    { name, line, column, isParameter } ::
      declarators line gap isParameter (column + name.length + gap) rest

/-- What a list of declarators adds to a scope: those whose names the scope does not hold yet. -/
def newVariables (scope : List Variable) : List Variable → List Variable
  | [] => []
  | v :: rest =>
    if holds scope v.name then newVariables scope rest else v :: newVariables (scope ++ [v]) rest

/-- The error about a second declaration of a name in one scope, first declared on `first`. -/
def redeclarationError (v : Variable) (first : Int) : Diagnostic :=
  ⟨"Variable " ++ quoted v.name ++ " already declared at line " ++ toString (first + 1), .error,
    ⟨v.line.toNat, v.column.toNat⟩, v.name.length, "semantic-analyzer"⟩

/-- The error about a use of a name that no scope holds. -/
def undefinedError (name : String) (line column : Nat) : Diagnostic :=
  ⟨"Variable " ++ quoted name ++ " is not defined", .error, ⟨line, column⟩, name.length,
    "semantic-analyzer"⟩

/-- The errors about a list of declarators. -/
def declarationErrors (scope : List Variable) : List Variable → List Diagnostic
  | [] => []
  | v :: rest =>
    match lookup? scope v.name with
    | some first => redeclarationError v first.line :: declarationErrors scope rest
    | none => declarationErrors (scope ++ [v]) rest

/-- The error about a use, if there is one. -/
def useErrors (scopes : List (List Variable)) (name : String) (line column : Nat) :
    List Diagnostic :=
  if scopes.any (holds · name) then [] else [undefinedError name line column]

/-- How many rows a list of statements has. -/
def Body.height : Body → Nat
  | done => 0
  | declare _ _ rest => rest.height + 1
  | assign _ _ rest => rest.height + 1
  | block body rest => body.height + rest.height + 2
  | loop _ body rest => body.height + rest.height + 2

/-- The variables of a declaration statement. -/
def declaredBy (line column : Nat) (names : List String) : List Variable :=
  declarators line 2 false (column + 4) names

/-- The counter of a loop. -/
def counterOf (line column : Nat) (counter : String) : Variable :=
  { name := counter, line, column := column + 9 }

/-- The errors of a list of statements in a scope, with the given scopes around it. -/
def Body.errors (width depth line : Nat) (scope : List Variable) (outer : List (List Variable)) :
    Body → List Diagnostic
  | done => []
  | declare first more rest =>
    let declared := declaredBy line (width * depth) (first :: more)
    declarationErrors scope declared ++
      rest.errors width depth (line + 1) (scope ++ newVariables scope declared) outer
  | assign target source rest =>
    useErrors (scope :: outer) target line (width * depth) ++
      useErrors (scope :: outer) source line (width * depth + target.length + 3) ++
      rest.errors width depth (line + 1) scope outer
  | block body rest =>
    body.errors width (depth + 1) (line + 1) [] (scope :: outer) ++
      rest.errors width depth (line + body.height + 2) scope outer
  | loop counter body rest =>
    body.errors width (depth + 1) (line + 1) [counterOf line (width * depth) counter]
        (scope :: outer) ++
      rest.errors width depth (line + body.height + 2) scope outer

/-- The parameters of a function whose header starts a line. -/
def parametersOf (line : Nat) (name : String) (parameters : List String) : List Variable :=
  declarators line 6 true (name.length + 10) parameters

/-- The errors of the rest of a program, after some variables of the whole program. -/
def Program.errorsFrom (width line : Nat) (scope : List Variable) : Program → List Diagnostic
  | [] => []
  | .declare first more :: rest =>
    let declared := declaredBy line 0 (first :: more)
    declarationErrors scope declared ++
      Program.errorsFrom width (line + 1) (scope ++ newVariables scope declared) rest
  | .function name parameters body :: rest =>
    let declared := parametersOf line name parameters
    declarationErrors [] declared ++
      body.errors width 1 (line + 1) (newVariables [] declared) [scope] ++
      Program.errorsFrom width (line + body.height + 2) scope rest

/-- The errors of a program, in text order. -/
def Program.errors (width : Nat) (p : Program) : List Diagnostic :=
  p.errorsFrom width 0 []

/-- Whether a name occurs free in a list of statements, so that a declaration around them is
meant. -/
def Body.free (name : String) : Body → Bool
  | done => false
  | declare first more rest => !(first :: more).contains name && rest.free name
  | assign target source rest => target == name || source == name || rest.free name
  | block body rest => body.free name || rest.free name
  | loop counter body rest => (counter != name && body.free name) || rest.free name

/-- Whether a name that the scope of a list of statements holds is used in them. A further
declarator of the name in the same scope declares nothing. -/
def Body.reads (name : String) : Body → Bool
  | done => false
  | declare _ _ rest => rest.reads name
  | assign target source rest => target == name || source == name || rest.reads name
  | block body rest => body.free name || rest.reads name
  | loop counter body rest => (counter != name && body.free name) || rest.reads name

/-- Notes which variables are used, by their names. -/
def markUsed (used : String → Bool) (declared : List Variable) : List Variable :=
  declared.map fun v => if used v.name then { v with used := true } else v

/-- The variables that a list of statements adds to its scope. -/
def Body.added (width depth line : Nat) (scope : List Variable) : Body → List Variable
  | done => []
  | declare first more rest =>
    let new := newVariables scope (declaredBy line (width * depth) (first :: more))
    markUsed (rest.reads ·) new ++ rest.added width depth (line + 1) (scope ++ new)
  | assign _ _ rest => rest.added width depth (line + 1) scope
  | block body rest => rest.added width depth (line + body.height + 2) scope
  | loop _ body rest => rest.added width depth (line + body.height + 2) scope

/-- The scopes inside a list of statements, in the order in which they are opened. -/
def Body.scopes (width depth line : Nat) : Body → List (List Variable)
  | done => []
  | declare _ _ rest => rest.scopes width depth (line + 1)
  | assign _ _ rest => rest.scopes width depth (line + 1)
  | block body rest =>
    body.added width (depth + 1) (line + 1) [] :: body.scopes width (depth + 1) (line + 1) ++
      rest.scopes width depth (line + body.height + 2)
  | loop counter body rest =>
    let declared := counterOf line (width * depth) counter
    ({ declared with used := true } :: body.added width (depth + 1) (line + 1) [declared]) ::
        body.scopes width (depth + 1) (line + 1) ++
      rest.scopes width depth (line + body.height + 2)

/-- Whether a variable of the whole program is used by the functions that follow it. -/
def Program.reads (name : String) : Program → Bool
  | [] => false
  | .declare _ _ :: rest => Program.reads name rest
  | .function _ parameters body :: rest =>
    (!parameters.contains name && body.free name) || Program.reads name rest

/-- The variables that the rest of a program adds to those of the whole program. -/
def Program.addedFrom (width line : Nat) (scope : List Variable) : Program → List Variable
  | [] => []
  | .declare first more :: rest =>
    let new := newVariables scope (declaredBy line 0 (first :: more))
    markUsed (Program.reads · rest) new ++ Program.addedFrom width (line + 1) (scope ++ new) rest
  | .function _ _ body :: rest => Program.addedFrom width (line + body.height + 2) scope rest

/-- The scopes of the functions in the rest of a program, in the order in which they are opened. -/
def Program.scopesFrom (width line : Nat) : Program → List (List Variable)
  | [] => []
  | .declare _ _ :: rest => Program.scopesFrom width (line + 1) rest
  | .function name parameters body :: rest =>
    let declared := newVariables [] (parametersOf line name parameters)
    (markUsed (body.reads ·) declared ++ body.added width 1 (line + 1) declared) ::
        body.scopes width 1 (line + 1) ++
      Program.scopesFrom width (line + body.height + 2) rest

/-- All scopes of a program, in the order in which they are opened. -/
def Program.scopes (width : Nat) (p : Program) : List (List Variable) :=
  p.addedFrom width 0 [] :: p.scopesFrom width 0

/-- The variables of a program that no use stands for, by scope and in the order of declaration.
Parameters and exempt names are not counted. -/
def Program.unused (width : Nat) (p : Program) : List Variable :=
  p.scopes width |>.flatten.filter fun v => !v.used && !v.isParameter && !isExempt v.name

end BrickLint.LexicalScope
