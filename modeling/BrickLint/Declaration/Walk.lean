import BrickLint.Declaration.FunctionTable
import BrickLint.Scope
import BrickLint.Token

/-!
# Walking the code

The tokens of the code are read once, line by line, with a scope stack that follows the braces and
the headers of functions and loops. Variables are declared in the innermost scope, names that
resolve nowhere are reported, and calls are noted for later. The walk accepts half-written code: a
stray closing brace never closes the global scope, and a header without a body is dropped at the
next semicolon or closing brace.
-/

namespace BrickLint

open Text

/-- What is known of a source before its code is walked. -/
structure Environment where
  /-- The predefined names. -/
  catalog : Catalog
  /-- The options. -/
  config : Config
  /-- The names of user types. -/
  userTypes : List String
  /-- The members of enumerations. -/
  enumConstants : List String
  /-- The functions of the source. -/
  functions : FunctionTable
  /-- The names that definitions introduce. -/
  defined : List String

/-- A declaration that has been started (`_Declaration`): a type and some of its declarators. -/
structure OpenDeclaration where
  /-- The declared names are parameters. -/
  isParameter : Bool := false
  /-- The next identifier is a declared name. -/
  expectName : Bool := true
  /-- An initializer has been started. -/
  inInitializer : Bool := false
  /-- How many brackets were opened since the declaration started. -/
  nest : Nat := 0
  /-- How many names have been declared. -/
  names : Nat := 0
  deriving DecidableEq, Repr

namespace OpenDeclaration

/-- Opens a bracket inside a declaration. -/
def openBracket (d : OpenDeclaration) : OpenDeclaration :=
  { d with nest := d.nest + 1 }

/-- Closes a bracket inside a declaration; one that is not open is passed over. -/
def closeBracket (d : OpenDeclaration) : OpenDeclaration :=
  { d with nest := d.nest - 1 }

/-- Closes a parenthesis. Outside all brackets of the declaration it ends the declaration. -/
def closeParen (d : OpenDeclaration) : Option OpenDeclaration :=
  if 0 < d.nest then some d.closeBracket else none

/-- Reads a comma. Outside brackets the next declarator follows. -/
def comma (d : OpenDeclaration) : OpenDeclaration :=
  if d.nest = 0 then { d with expectName := true, inInitializer := false } else d

/-- Reads an equals sign. Outside brackets an initializer follows, and without a name there is no
declaration. -/
def equals (d : OpenDeclaration) : Option OpenDeclaration :=
  if d.nest ≠ 0 then some d
  else if d.expectName then none
  else some { d with inInitializer := true }

/-- Notes that the expected name has been declared. -/
def named (d : OpenDeclaration) : OpenDeclaration :=
  { d with expectName := false, names := d.names + 1 }

end OpenDeclaration

/-- A call and the place of its name. -/
structure Call where
  /-- The called name. -/
  name : String
  /-- The line of the call, counted from zero. -/
  line : Nat
  /-- The column of the name, counted from zero. -/
  column : Nat
  deriving DecidableEq, Repr

/-- The state of the walk. -/
structure Walk where
  /-- The scopes. -/
  scopes : ScopeStack := {}
  /-- How many parentheses are open. -/
  parens : Nat := 0
  /-- The next parenthesis opens a header of this kind. -/
  pendingHeader : Option ScopeKind := none
  /-- The next brace opens a block of this kind. -/
  pendingBlock : Option ScopeKind := none
  /-- The declaration that is open. -/
  decl : Option OpenDeclaration := none
  /-- The first call of each name, in order. -/
  calls : List Call := []
  /-- The findings, in order. -/
  findings : List Finding := []
  deriving DecidableEq, Repr

/-- Words that qualify a declaration. -/
def qualifierWords : List String :=
  ["const", "static", "inline", "safecall", "extern", "volatile", "register", "typedef"]

/-- Tokens after which a statement or a parameter starts. -/
def statementStarts : List String :=
  ["\x7b", "\x7d", ";", "(", ","]

/-- The kind of block that a tag announces. -/
def tagKind? (word : String) : Option ScopeKind :=
  if word = "struct" ∨ word = "union" then some .aggregate
  else if word = "enum" then some .enum
  else none

namespace Walk

/-- Adds a finding. -/
def report (w : Walk) (finding : Finding) : Walk :=
  { w with findings := w.findings ++ [finding] }

/-- Reads an opening parenthesis. It opens a pending header, or else nests a declaration. -/
def openParen (w : Walk) (line : Nat) : Walk :=
  match w.pendingHeader with
  | some kind =>
    { w with
      scopes := w.scopes.push kind line (some w.parens)
      pendingHeader := none
      parens := w.parens + 1 }
  | none => { w with decl := w.decl.map (·.openBracket), parens := w.parens + 1 }

/-- Closes the header of the innermost scope when its parentheses are closed. -/
def closeHeader (parens : Nat) (scope : Scope) : Scope :=
  if scope.headerOpen && parens ≤ scope.headerDepth then { scope with headerOpen := false }
  else scope

/-- Reads a closing parenthesis. -/
def closeParen (w : Walk) : Walk :=
  let parens := w.parens - 1
  { w with
    decl := w.decl.bind (·.closeParen)
    parens := parens
    scopes := w.scopes.modifyCurrent (closeHeader parens) }

/-- Reads an opening brace (`_open_brace`). It starts a braced initializer, or is the body of a
header scope, or opens a block. -/
def openBrace (w : Walk) (line : Nat) : Walk :=
  match w.decl with
  | some d =>
    if d.inInitializer then { w with decl := some d.openBracket }
    else openBlock { w with decl := none }
  | none => openBlock w
where
  /-- Binds the brace to a waiting header scope, or opens a block of the pending kind. -/
  openBlock (w : Walk) : Walk :=
    if w.scopes.current.awaitingBrace && !w.scopes.current.headerOpen then
      { w with
        scopes := w.scopes.modifyCurrent fun scope => { scope with awaitingBrace := false }
        pendingBlock := none }
    else
      { w with
        scopes := w.scopes.push (w.pendingBlock.getD .block) line
        pendingBlock := none }

/-- Closes the innermost block, for `_close_brace`. Header scopes that never got their body are
dropped first, and what follows the body of a structured type declares a variable of it. -/
def closeBlock (w : Walk) : Walk :=
  let waiting := w.scopes.popWhile (·.awaitingBrace)
  let declares := waiting.popped?.any fun scope => scope.kind == .aggregate || scope.kind == .enum
  { w with
    scopes := waiting.pop
    pendingHeader := none
    decl := if declares then some {} else none }

/-- Reads a closing brace (`_close_brace`). It ends a braced initializer or closes a block. -/
def closeBrace (w : Walk) : Walk :=
  match w.decl with
  | some d =>
    if d.inInitializer && 0 < d.nest then { w with decl := some d.closeBracket }
    else w.closeBlock
  | none => w.closeBlock

/-- Ends a statement (`_end_statement`). Header scopes whose parentheses are closed end with it. -/
def endStatement (w : Walk) : Walk :=
  { w with
    decl := none
    scopes := w.scopes.popWhile fun scope => scope.awaitingBrace && !scope.headerOpen }

/-- Reads a punctuation token (`_punct`). -/
def punct (w : Walk) (line : Nat) (text : String) : Walk :=
  if text = "(" then w.openParen line
  else if text = ")" then w.closeParen
  else if text = "[" then { w with decl := w.decl.map (·.openBracket) }
  else if text = "]" then { w with decl := w.decl.map (·.closeBracket) }
  else if text = "\x7b" then w.openBrace line
  else if text = "\x7d" then w.closeBrace
  else if text = ";" then w.endStatement
  else if text = "," then { w with decl := w.decl.map (·.comma) }
  else if text = "=" then { w with decl := w.decl.bind (·.equals) }
  else w

/-- Whether the walk is between the parentheses of a function header (`_in_function_header`). -/
def inFunctionHeader (w : Walk) : Bool :=
  w.scopes.current.kind == .function && w.scopes.current.headerOpen

/-- Starts a declaration. -/
def startDeclaration (w : Walk) : Walk :=
  { w with decl := some { isParameter := w.inFunctionHeader } }

/-- The finding that a new variable hides a predefined name, if such findings are asked for. -/
def shadowing? (catalog : Catalog) (config : Config) (v : Variable) : Option Finding :=
  if !config.warnOnShadowing then none
  else if catalog.isFunction v.name then
    some ⟨.variableShadowsFunction v.name, v.line, v.column, v.name.length⟩
  else if catalog.isConstant v.name then
    some ⟨.variableShadowsConstant v.name, v.line, v.column, v.name.length⟩
  else none

/-- Declares a variable in the innermost scope (`_declare`). A second declaration is reported unless
it stands in a sibling branch of the first, and a name that hides a predefined one is reported on
request. -/
def declare (catalog : Catalog) (config : Config) (w : Walk) (v : Variable) : Walk :=
  match w.scopes.current.find? v.name with
  | some existing =>
    if inSiblingBranches existing.path v.path then w
    else w.report ⟨.variableRedeclared v.name existing.line, v.line, v.column, v.name.length⟩
  | none =>
    let w := { w with scopes := w.scopes.declare v }
    (shadowing? catalog config v).elim w w.report

/-- Whether a name is declared outside all scopes. -/
def isGlobalName (env : Environment) (name : String) : Bool :=
  env.functions.contains name || env.defined.contains name || env.enumConstants.contains name ||
    env.userTypes.contains name || env.catalog.isKnown name

/-- Resolves a use of a name (`_resolve`). -/
def resolve (env : Environment) (w : Walk) (line : Nat) (token : Token) : Walk :=
  if w.scopes.inside .enum then w
  else if (w.scopes.find? token.text).isSome then
    { w with scopes := w.scopes.use token.text }
  else if isGlobalName env token.text then w
  else w.report ⟨.undefinedVariable token.text, line, token.column, token.text.length⟩

/-- Notes a call, the first one of each name. -/
def noteCall (w : Walk) (line : Nat) (token : Token) : Walk :=
  if w.calls.any (·.name == token.text) then w
  else { w with calls := w.calls ++ [⟨token.text, line, token.column⟩] }

end Walk

/-- Whether a name is a type (`_is_type`). -/
def Environment.isType (env : Environment) (name : String) : Bool :=
  variableTypes.contains name || functionTypes.contains name || env.userTypes.contains name

/-- The text of the first token. -/
def headText? (tokens : List Token) : Option String :=
  tokens.head?.map (·.text)

/-- Whether the first token is an identifier that is no keyword. -/
def headIsName (catalog : Catalog) (tokens : List Token) : Bool :=
  tokens.head?.any fun token => token.kind == .ident && !catalog.isKeyword token.text

/-- Whether the first token is an identifier. -/
def headIsIdent (tokens : List Token) : Bool :=
  tokens.head?.any (·.kind == .ident)

namespace Walk

/-- Reads the tag of a structured type. With a name and no body it is used as a type. -/
def tag (w : Walk) (kind : ScopeKind) (rest : List Token) : Walk :=
  if headIsIdent rest && headText? rest.tail != some "\x7b" then
    startDeclaration { w with pendingBlock := none }
  else { w with pendingBlock := some kind }

/-- Reads the next name of a declaration `d`: a function declarator, a type that is defined
elsewhere, or a variable. -/
def declarator (env : Environment) (w : Walk) (d : OpenDeclaration) (code : CodeLine)
    (token : Token) (rest : List Token) : Walk :=
  if headText? rest = some "(" then { w with pendingHeader := some .function, decl := none }
  else if headIsName env.catalog rest then w
  else
    let w := w.declare env.catalog env.config
      { name := token.text
        line := code.number
        column := token.column
        path := code.path
        isParameter := d.isParameter }
    { w with decl := some d.named }

/-- Whether the next two names are a type that is defined elsewhere and a declared variable. -/
def startsUnknownType (env : Environment) (prev : Option Token) (rest : List Token) : Bool :=
  headIsName env.catalog rest && !(headText? rest).any env.isType &&
    prev.all fun token =>
      statementStarts.contains token.text || qualifierWords.contains token.text

/-- Whether a name is a label: the first token of its line, with a single colon behind it. -/
def isLabel (prev : Option Token) (rest : List Token) : Bool :=
  prev.isNone && headText? rest == some ":" && headText? rest.tail != some ":"

/-- Reads an identifier outside declarations. -/
def reference (env : Environment) (w : Walk) (line : Nat) (prev : Option Token) (token : Token)
    (rest : List Token) : Walk :=
  if headText? rest = some "(" then w.noteCall line token
  else if startsUnknownType env prev rest then w.startDeclaration
  else if isLabel prev rest then w
  else w.resolve env line token

/-- Reads an identifier that is neither a tag nor a qualifier. -/
def name (env : Environment) (w : Walk) (code : CodeLine) (prev : Option Token) (token : Token)
    (rest : List Token) : Walk :=
  if env.isType token.text then
    if w.decl.any fun d => d.expectName && d.names == 0 && d.nest == 0 then w
    else w.startDeclaration
  else if env.catalog.isKeyword token.text then w
  else
    match w.decl with
    | some d =>
      if d.expectName && d.nest == 0 then w.declarator env d code token rest
      else w.reference env code.number prev token rest
    | none => w.reference env code.number prev token rest

/-- Reads an identifier (`_ident`). The flag tells that the next token has been read with it. -/
def ident (env : Environment) (w : Walk) (code : CodeLine) (prev : Option Token) (token : Token)
    (rest : List Token) : Walk × Bool :=
  if w.scopes.inside .asm then (w, false)
  else if prev.any fun p => p.text == "." || p.text == "->" then (w, false)
  else if token.text = "asm" then ({ w with pendingBlock := some .asm }, false)
  else
    match tagKind? token.text with
    | some kind => (w.tag kind rest, headIsIdent rest)
    | none =>
      if qualifierWords.contains token.text then (w, false)
      else if token.text = "goto" then (w, headIsIdent rest)
      else if token.text = "for" ∧ headText? rest = some "(" then
        ({ w with pendingHeader := some .forLoop, decl := none }, false)
      else (w.name env code prev token rest, false)

/-- Reads the tokens of a line. -/
def tokens (env : Environment) (code : CodeLine) (prev : Option Token) (w : Walk) :
    List Token → Walk
  | [] => w
  | token :: rest =>
    match token.kind with
    | .punct => tokens env code (some token) (w.punct code.number token.text) rest
    | .number => tokens env code (some token) w rest
    | .ident =>
      let (w, skip) := w.ident env code prev token rest
      match skip, rest with
      | true, next :: rest => tokens env code (some next) w rest
      | true, [] => w
      | false, rest => tokens env code (some token) w rest

/-- Reads a line of code (`_walk_line`). -/
def line (env : Environment) (w : Walk) (code : CodeLine) : Walk :=
  w.tokens env code none (tokenize code.text)

end Walk

/-- Walks the code of a source (`_validate`). -/
def walkCode (env : Environment) (code : List CodeLine) : Walk :=
  code.foldl (Walk.line env) {}

end BrickLint
