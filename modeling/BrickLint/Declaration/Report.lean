import BrickLint.Declaration.UserType
import BrickLint.Declaration.Walk
import BrickLint.Spelling
import BrickLint.Text.Lines

/-!
# Report on declarations

The declarations of a scrubbed source are collected, its code is walked, and three checks follow:
calls of unknown functions, indexed initializers, and variables that are never used.
-/

namespace BrickLint

open Text

/-- What the passes over the declarations found (`TrackerReport`). -/
structure DeclarationReport where
  /-- The findings, in order. -/
  findings : List Finding
  /-- The type names and enumerators. -/
  types : TypeNames
  /-- The functions. -/
  functions : List FunctionDecl
  /-- The names that definitions introduce. -/
  defined : List String
  /-- The state at the end of the code. -/
  walk : Walk
  /-- The variables that are never used. -/
  unused : List Variable

/-- The finding about a call of an unknown function, if names are suggested at all and a built-in
one is similar (`_check_calls`). -/
def callFinding? (env : Environment) (call : Call) : Option Finding :=
  if env.functions.contains call.name || env.defined.contains call.name ||
      env.catalog.isFunction call.name || env.userTypes.contains call.name ||
      env.catalog.isKeyword call.name then none
  else if !env.config.suggestBuiltins then none
  else
    (suggest call.name.toList env.catalog.functionNames).map fun best =>
      ⟨.unknownCall call.name best, call.line, call.column, call.name.length⟩

/-- Whether a braced list that is indexed follows, behind an equals sign. -/
def isIndexedInitializer (cs : List Char) : Bool :=
  let behind? := do
    let inside ← afterChar? '{' (stripStart cs)
    afterChar? '}' (inside.dropWhile fun c => c != ';' && c != '{' && c != '}')
  behind?.any fun cs => (stripStart cs).head? == some '['

/-- Findings about indexed initializers from position `p` on (`_check_braced_initializers`). -/
def initializerFindings (p : Position) : List Char → List Finding
  | [] => []
  | c :: cs =>
    let rest := initializerFindings (p.advance c) cs
    if c = '=' ∧ isIndexedInitializer cs then .ofPosition .indexedInitializer p 1 :: rest else rest

/-- Names that are never reported as unused: constants in capitals, names that start with a small
`g`, the entry point, and names of one character. -/
def isExempt (name : String) : Bool :=
  let cs := name.toList
  (cs.head?.any (fun c => c.isUpper || c == '_') &&
    cs.all fun c => c.isUpper || c.isDigit || c == '_') ||
    cs.head? == some 'g' || name == "main" || cs.length ≤ 1

/-- The variables of a scope that are never used (`_unused_symbols`). Members of structured types
are not counted. -/
def unusedVariables (scope : Scope) : List Variable :=
  if scope.kind = .aggregate ∨ scope.kind = .enum then []
  else scope.declared.filter fun v => !v.used && !v.isParameter && !isExempt v.name

/-- The finding about a variable that is never used. -/
def unusedFinding (v : Variable) : Finding :=
  ⟨.unusedVariable v.name, v.line, v.column, v.name.length⟩

/-- Checks the declarations of a scrubbed source (`DeclarationTracker.run`). The variables that are
never used are listed in any case, and reported on request. -/
def checkDeclarations (catalog : Catalog) (config : Config) (text : List Char) :
    DeclarationReport :=
  let lines := codeRows text
  let types := collectTypeNames catalog lines
  let parts := layout lines
  let functions := collectFunctions catalog config types.types parts.code
  let env : Environment :=
    ⟨catalog, config, types.types, types.enumConstants, functions, parts.defined⟩
  let walk := walkCode env parts.code
  let unused := walk.scopes.arena.flatMap unusedVariables
  { findings :=
      functions.findings ++ walk.findings ++ walk.calls.filterMap (callFinding? env) ++
        initializerFindings Position.start text ++
        (if config.reportUnusedVariables then unused.map unusedFinding else [])
    types := types
    functions := functions.functions
    defined := parts.defined
    walk := walk
    unused := unused }

end BrickLint
