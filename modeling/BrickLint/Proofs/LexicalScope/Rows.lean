import BrickLint.Proofs.LexicalScope.Reading

/-!
# The rows of a program

The effect of each kind of row on a state in which nothing is pending.
-/

namespace BrickLint.LexicalScope

open Text

variable {env : Environment} {code : CodeLine} {prev : Option Token} {column : Nat}
  {cs : List Char} {w : Walk}

/-- Whether a token announces a member of a structure. -/
def isMemberMark (token : Token) : Bool :=
  token.text == "." || token.text == "->"

/-- A word without a meaning of its own is read as a name. -/
theorem ident_eq_name {name : String} {rest : List Token} (hasm : w.scopes.inside .asm = false)
    (hprev : prev.any isMemberMark = false) (hword : name ∉ walkWords) :
    w.ident env code prev ⟨.ident, name, column⟩ rest =
      (w.name env code prev ⟨.ident, name, column⟩ rest, false) := by
  simp only [walkWords, List.mem_append, List.mem_cons, List.not_mem_nil, or_false, not_or] at hword
  obtain ⟨⟨hnasm, hstruct, hunion, henum, hgoto, hfor⟩, hqualifier⟩ := hword
  have hprev' : (prev.any fun p => p.text == "." || p.text == "->") = false := hprev
  have htag : tagKind? name = none := by simp [tagKind?, hstruct, hunion, henum]
  simp [Walk.ident, hasm, hprev', hnasm, htag, hqualifier, hgoto, hfor]

/-- Reading a type where no declaration has just been started starts one. -/
theorem read_type {name : String} (hname : name = "int" ∨ name = "void")
    (hcs : cs.head?.any isIdentChar = false) (hasm : w.scopes.inside .asm = false)
    (hprev : prev.any isMemberMark = false)
    (hdecl : (w.decl.any fun d => d.expectName && d.names == 0 && d.nest == 0) = false) :
    read env code prev column (name.toList ++ cs) w =
      read env code (some ⟨.ident, name, column⟩) (column + name.length) cs w.startDeclaration := by
  have hidentifier : isIdentifier name = true := by rcases hname with rfl | rfl <;> decide
  have hword : name ∉ walkWords := by rcases hname with rfl | rfl <;> decide
  have htype : env.isType name = true := by
    rcases hname with rfl | rfl <;> simp [Environment.isType, variableTypes, functionTypes]
  apply read_identifier hidentifier hcs
  rw [ident_eq_name hasm hprev hword]
  simp [Walk.name, htype, hdecl]

/-- What follows is a mark, perhaps behind a space. -/
def Follows (mark : Char) (cs : List Char) : Prop :=
  isMark mark = true ∧ ∃ rest, cs = mark :: rest ∨ cs = ' ' :: mark :: rest

/-- A mark that comes next follows. -/
theorem follows_mark {mark : Char} (hmark : isMark mark = true) (rest : List Char) :
    Follows mark (mark :: rest) :=
  ⟨hmark, rest, .inl rfl⟩

/-- A mark behind a space follows. -/
theorem follows_space_mark {mark : Char} (hmark : isMark mark = true) (rest : List Char) :
    Follows mark (' ' :: mark :: rest) :=
  ⟨hmark, rest, .inr rfl⟩

/-- The next token is the mark that follows. -/
theorem Follows.tokensFrom {mark : Char} (h : Follows mark cs) (column : Nat) :
    ∃ at_ rest, tokensFrom 0 column cs = ⟨.punct, String.singleton mark, at_⟩ :: rest := by
  obtain ⟨hmark, rest, rfl | rfl⟩ := h
  · exact ⟨_, _, tokensFrom_of_isMark hmark⟩
  · rw [tokensFrom_space, tokensFrom_of_isMark hmark]
    exact ⟨_, _, rfl⟩

/-- A mark ends an identifier. -/
theorem Follows.head? {mark : Char} (h : Follows mark cs) :
    cs.head?.any isIdentChar = false := by
  obtain ⟨hmark, rest, rfl | rfl⟩ := h
  · simpa using isIdentChar_of_isMark hmark
  · rfl

/-- The finding about a second declaration of a name in the innermost scope. -/
def redeclared (s : ScopeStack) (v : Variable) : List Finding :=
  (lookup? s.current.declared v.name).toList.map fun first =>
    ⟨.variableRedeclared v.name first.line, v.line, v.column, v.name.length⟩

/-- The findings about consecutive declarators. -/
def redeclarations (s : ScopeStack) : List Variable → List Finding
  | [] => []
  | v :: rest => redeclared s v ++ redeclarations (declareNew s v) rest

/-- Declaring a variable outside all conditional branches. -/
theorem declare_eq {v : Variable} (hfit : Fits env v.name) (hpath : v.path = []) :
    w.declare env.catalog env.config v =
      { w with
        scopes := declareNew w.scopes v
        findings := w.findings ++ redeclared w.scopes v } := by
  have hshadow := hfit.shadowing? (v := v) rfl
  unfold Walk.declare
  rw [find?_eq_lookup?]
  cases hfirst : lookup? w.scopes.current.declared v.name with
  | none => simp [hshadow, declareNew, holds, redeclared, hfirst]
  | some first =>
    have hsibling : inSiblingBranches first.path [] = false := by
      cases first.path <;> rfl
    simp [hpath, hsibling, declareNew, holds, redeclared, hfirst, Walk.report]

/-- Reading the name of a variable that is being declared. -/
theorem read_declarator {name : String} {mark : Char} {d : OpenDeclaration}
    (hfit : Fits env name) (hnext : Follows mark cs) (hmark : String.singleton mark ≠ "(")
    (hdecl : w.decl = some d) (hexpect : d.expectName = true) (hnest : d.nest = 0)
    (hasm : w.scopes.inside .asm = false) (hprev : prev.any isMemberMark = false) :
    read env code prev column (name.toList ++ cs) w =
      read env code (some ⟨.ident, name, column⟩) (column + name.length) cs
        { w.declare env.catalog env.config
            { name, line := code.number, column, path := code.path, isParameter := d.isParameter }
          with decl := some d.named } := by
  obtain ⟨at_, rest, htokens⟩ := hnext.tokensFrom (column + name.length)
  apply read_identifier hfit.identifier hnext.head?
  rw [ident_eq_name hasm hprev (not_mem_walkWords hfit.not_keyword), htokens]
  simp [Walk.name, hfit.isType, hfit.isKeyword, hdecl, hexpect, hnest, Walk.declarator, headText?,
    headIsName, hmark]

/-- The finding about a use of a name that no open scope holds. -/
def undefinedUse (s : ScopeStack) (name : String) (line column : Nat) : List Finding :=
  if s.frames.any (holds · name) then []
  else [⟨.undefinedVariable name, line, column, name.length⟩]

/-- Resolving a name that means nothing by itself. -/
theorem resolve_eq {name : String} (hfit : Fits env name) (henum : w.scopes.inside .enum = false)
    (line : Nat) :
    w.resolve env line ⟨.ident, name, column⟩ =
      { w with
        scopes := w.scopes.use name
        findings := w.findings ++ undefinedUse w.scopes name line column } := by
  have hfound := find?_isSome w.scopes name
  unfold Walk.resolve undefinedUse
  rw [← hfound]
  cases hfind : w.scopes.find? name with
  | none => simp [henum, hfind, hfit.not_global, ScopeStack.use, Walk.report]
  | some found => simp [henum]

/-- Reading a name outside declarations. -/
theorem read_use {name : String} {mark : Char} (hfit : Fits env name) (hnext : Follows mark cs)
    (hparen : String.singleton mark ≠ "(") (hcolon : String.singleton mark ≠ ":")
    (hdecl : w.decl = none) (hasm : w.scopes.inside .asm = false)
    (henum : w.scopes.inside .enum = false) (hprev : prev.any isMemberMark = false) :
    read env code prev column (name.toList ++ cs) w =
      read env code (some ⟨.ident, name, column⟩) (column + name.length) cs
        { w with
          scopes := w.scopes.use name
          findings := w.findings ++ undefinedUse w.scopes name code.number column } := by
  obtain ⟨at_, rest, htokens⟩ := hnext.tokensFrom (column + name.length)
  apply read_identifier hfit.identifier hnext.head?
  rw [ident_eq_name hasm hprev (not_mem_walkWords hfit.not_keyword), htokens,
    ← resolve_eq hfit henum]
  simp [Walk.name, hfit.isType, hfit.isKeyword, hdecl, Walk.reference, headText?, headIsName,
    hparen, hcolon, Walk.startsUnknownType, Walk.isLabel]

/-- The state between two rows. -/
def atRest (s : ScopeStack) (findings : List Finding) : Walk :=
  { scopes := s, findings := findings }

/-- A line is read from its first column on. -/
theorem line_eq_read (w : Walk) (number : Nat) (text : List Char) :
    w.line env ⟨number, text, []⟩ = read env ⟨number, text, []⟩ none 0 text w :=
  rfl

/-- Joined names start with the first one. -/
theorem joinNames_cons_cons (separator first second : String) (more : List String) :
    joinNames separator (first :: second :: more) =
      first.toList ++ (separator.toList ++ joinNames separator (second :: more)) := by
  simp [joinNames, List.intercalate]

/-- A single name is joined with nothing. -/
@[simp] theorem joinNames_singleton (separator name : String) :
    joinNames separator [name] = name.toList := by
  simp [joinNames, List.intercalate]

section

variable {number parens names : Nat} {text : List Char} {s : ScopeStack}
  {findings : List Finding} {isParameter : Bool} {name : String}

/-- Reading a declared name in front of a mark other than a parenthesis. -/
theorem read_declared {mark : Char} (hfit : Fits env name) (hasm : s.inside .asm = false)
    (hprev : prev.any isMemberMark = false) (hnext : Follows mark cs)
    (hmark : String.singleton mark ≠ "(") :
    read env ⟨number, text, []⟩ prev column (name.toList ++ cs)
        { scopes := s, parens, decl := some { isParameter, names }, findings } =
      read env ⟨number, text, []⟩ (some ⟨.ident, name, column⟩) (column + name.length) cs
        { scopes := declareNew s { name, line := number, column, isParameter }
          parens
          decl := some { isParameter, expectName := false, names := names + 1 }
          findings := findings ++ redeclared s { name, line := number, column, isParameter } } := by
  rw [read_declarator hfit hnext hmark rfl rfl rfl hasm hprev, declare_eq hfit rfl]
  rfl

/-- Reading a declared name and the comma behind it. -/
theorem read_declared_comma (hfit : Fits env name) (hasm : s.inside .asm = false)
    (hprev : prev.any isMemberMark = false) :
    read env ⟨number, text, []⟩ prev column (name.toList ++ ',' :: ' ' :: cs)
        { scopes := s, parens, decl := some { isParameter, names }, findings } =
      read env ⟨number, text, []⟩ (some ⟨.punct, ",", column + name.length⟩)
        (column + name.length + 2) cs
        { scopes := declareNew s { name, line := number, column, isParameter }
          parens
          decl := some { isParameter, names := names + 1 }
          findings := findings ++ redeclared s { name, line := number, column, isParameter } } := by
  rw [read_declared hfit hasm hprev (follows_mark (by decide) _) (by decide),
    read_mark (by decide), read_space]
  rfl

end

/-- Reading the declarators of a declaration and its semicolon. -/
theorem read_declarators {number names : Nat} {text : List Char} {s : ScopeStack}
    {findings : List Finding} {first : String} {more : List String}
    (hs : s.WellFormed) (hsettled : Settled s) (hfit : ∀ name ∈ first :: more, Fits env name)
    (hprev : prev.any isMemberMark = false) :
    read env ⟨number, text, []⟩ prev column (joinNames ", " (first :: more) ++ [';'])
        { scopes := s, decl := some { names }, findings } =
      atRest ((declarators number 2 false column (first :: more)).foldl declareNew s)
        (findings ++ redeclarations s (declarators number 2 false column (first :: more))) := by
  have hfirst := hfit first List.mem_cons_self
  induction more generalizing first s findings names prev column with
  | nil =>
    have hcurrent := (hsettled.declareNew { name := first, line := number, column }).current
    have hkeep := popWhile_eq_self (p := fun scope => scope.awaitingBrace && !scope.headerOpen)
      (by rw [hcurrent.awaitingBrace]; rfl)
    rw [joinNames_singleton, read_declared hfirst hsettled.inside_asm hprev
      (follows_mark (by decide) []) (by decide), read_mark (by decide), read_nil]
    change Walk.endStatement _ = _
    simp only [Walk.endStatement, hkeep, atRest, declarators, List.foldl_cons, List.foldl_nil,
      redeclarations, List.append_nil]
  | cons second more ih =>
    have hmore : ∀ name ∈ second :: more, Fits env name :=
      fun name hname => hfit name (List.mem_cons_of_mem _ hname)
    rw [joinNames_cons_cons, List.append_assoc]
    change read env _ prev column
      (first.toList ++ ',' :: ' ' :: (joinNames ", " (second :: more) ++ [';'])) _ = _
    rw [read_declared_comma hfirst hsettled.inside_asm hprev,
      ih ((grows_declareNew hs _).wellFormed hs) (hsettled.declareNew _) hmore (by rfl)
        (hmore second List.mem_cons_self)]
    simp [declarators, redeclarations]

/-- A declaration, word by word. -/
theorem declarationText_eq (names : List String) :
    declarationText names = "int".toList ++ ' ' :: (joinNames ", " names ++ [';']) := by
  have hint : "int ".toList = "int".toList ++ [' '] := by decide
  rw [declarationText, hint]
  simp only [List.append_assoc, List.cons_append, List.nil_append]

/-- An assignment, word by word. -/
theorem assignmentText_eq (target source : String) :
    assignmentText target source =
      target.toList ++ ' ' :: '=' :: ' ' :: (source.toList ++ [';']) := by
  have hequals : " = ".toList = [' ', '=', ' '] := by decide
  rw [assignmentText, hequals]
  simp only [List.append_assoc, List.cons_append, List.nil_append]

/-- The row of a declaration declares its variables. -/
theorem line_declaration {s : ScopeStack} (hs : s.WellFormed) (hsettled : Settled s)
    {first : String} {more : List String} (hfit : ∀ name ∈ first :: more, Fits env name)
    (findings : List Finding) (number width depth : Nat) :
    (atRest s findings).line env
        ⟨number, margin width depth ++ declarationText (first :: more), []⟩ =
      atRest ((declaredBy number (width * depth) (first :: more)).foldl declareNew s)
        (findings ++ redeclarations s (declaredBy number (width * depth) (first :: more))) := by
  have hheader : (atRest s findings).inFunctionHeader = false := by
    simp [Walk.inFunctionHeader, atRest, hsettled.current.headerOpen]
  rw [line_eq_read, read_margin, declarationText_eq, read_type (.inl rfl) rfl hsettled.inside_asm
    rfl rfl, read_space, Walk.startDeclaration, hheader]
  exact read_declarators hs hsettled hfit rfl

/-- The row of an assignment uses both variables, the target first. -/
theorem line_assignment {s : ScopeStack} (hsettled : Settled s) {target source : String}
    (htarget : Fits env target) (hsource : Fits env source) (findings : List Finding)
    (number width depth : Nat) :
    (atRest s findings).line env
        ⟨number, margin width depth ++ assignmentText target source, []⟩ =
      atRest ((s.use target).use source)
        (findings ++ undefinedUse s target number (width * depth) ++
          undefinedUse (s.use target) source number (width * depth + target.length + 3)) := by
  have hsettled' := hsettled.use target
  have hkeep := popWhile_eq_self (p := fun scope => scope.awaitingBrace && !scope.headerOpen)
    (by rw [(hsettled'.use source).current.awaitingBrace]; rfl)
  rw [line_eq_read, read_margin, assignmentText_eq,
    read_use htarget (follows_space_mark (by decide) _) (by decide) (by decide) rfl
      hsettled.inside_asm hsettled.inside_enum rfl, read_space, read_mark (by decide), read_space]
  change read env _ _ _ _ (atRest (s.use target)
    (findings ++ undefinedUse s target number (width * depth))) = _
  rw [read_use hsource (follows_mark (by decide) _) (by decide) (by decide) rfl
    hsettled'.inside_asm hsettled'.inside_enum (by rfl), read_mark (by decide), read_nil]
  change Walk.endStatement _ = _
  simp only [Walk.endStatement, atRest, hkeep]

/-- A scope that is opened in a stack; while it is pending, its header is still being read. -/
def newScope (s : ScopeStack) (kind : ScopeKind) (number : Nat) (pending : Bool)
    (declared : List Variable) : Scope where
  index := s.arena.length
  kind := kind
  parent := some s.currentIndex
  openedLine := number
  declared := declared
  awaitingBrace := pending
  headerOpen := pending

/-- The opening row of a block enters a scope. -/
theorem line_open {s : ScopeStack} (hsettled : Settled s) (findings : List Finding)
    (number width depth : Nat) :
    (atRest s findings).line env ⟨number, margin width depth ++ ['{'], []⟩ =
      atRest (s.enter (newScope s .block number false [])) findings := by
  rw [line_eq_read, read_margin, read_mark (by decide), read_nil]
  change Walk.openBrace.openBlock number (atRest s findings) = _
  simp only [Walk.openBrace.openBlock, atRest, hsettled.current.awaitingBrace]
  rfl

/-- The closing row of a block, loop or function leaves its scope. -/
theorem line_close {s : ScopeStack} (hsettled : Settled s) (findings : List Finding)
    (number width depth : Nat) :
    (atRest s findings).line env ⟨number, margin width depth ++ ['}'], []⟩ =
      atRest s.pop findings := by
  have hkeep := popWhile_eq_self (p := fun scope => scope.awaitingBrace)
    hsettled.current.awaitingBrace
  have hpopped : (s.popped?.any fun scope => scope.kind == .aggregate || scope.kind == .enum) =
      false := by
    unfold ScopeStack.popped?
    split
    · simp [(hsettled _).kind_ne_aggregate, (hsettled _).kind_ne_enum]
    · rfl
  rw [line_eq_read, read_margin, read_mark (by decide), read_nil]
  change Walk.closeBlock (atRest s findings) = _
  simp [Walk.closeBlock, atRest, hkeep, hpopped]

/-- Declaring in a scope that was just entered. -/
theorem declareNew_enter (s : ScopeStack) (scope : Scope) (v : Variable) :
    declareNew (s.enter scope) v =
      s.enter { scope with declared := scope.declared ++ newVariables scope.declared [v] } := by
  unfold declareNew
  cases h : holds scope.declared v.name with
  | true => simp [h, newVariables]
  | false => simp [h, newVariables, ScopeStack.declare, Scope.declare, putVariable_of_not_holds h]

/-- Using a variable of a scope that was just entered. -/
theorem use_enter {s : ScopeStack} {scope : Scope} {name : String}
    (h : holds scope.declared name = true) :
    (s.enter scope).use name =
      s.enter { scope with declared := markUsed (· == name) scope.declared } := by
  obtain ⟨v, hv⟩ := Option.isSome_iff_exists.mp h
  have hscope : (s.enter scope).scopeAt s.arena.length = scope := by
    simp [ScopeStack.enter, ScopeStack.scopeAt]
  have hfind : (s.enter scope).find? name = some (s.arena.length, v) := by
    change (s.arena.length :: s.stack).findSome? _ = _
    rw [List.findSome?_cons, hscope, find?_eq_lookup?, hv]
    rfl
  have hmark : (s.enter scope).markUsed s.arena.length name =
      (s.enter scope).modifyCurrent (·.markUsed name) := rfl
  rw [ScopeStack.use, hfind]
  simp only
  rw [hmark, ScopeStack.modifyCurrent_enter]
  simp [Scope.markUsed, markUsed]

/-- A name of a scope that was just entered is defined. -/
theorem undefinedUse_enter {s : ScopeStack} (hs : s.WellFormed) {scope : Scope} {name : String}
    (h : holds scope.declared name = true) (line column : Nat) :
    undefinedUse (s.enter scope) name line column = [] := by
  simp [undefinedUse, ScopeStack.frames_enter hs, h]

/-- Reading the end of a header binds its scope to the body. -/
theorem read_header_end {s : ScopeStack} {kind : ScopeKind} {number : Nat} {text : List Char}
    {declared : List Variable} {findings : List Finding} {decl : Option OpenDeclaration}
    (hdecl : decl.bind (·.closeParen) = none) :
    read env ⟨number, text, []⟩ prev column [')', ' ', '{']
        { scopes := s.enter (newScope s kind number true declared), parens := 1, decl,
          findings } =
      atRest (s.enter (newScope s kind number false declared)) findings := by
  rw [read_mark (by decide), read_space, read_mark (by decide), read_nil]
  change Walk.openBrace (Walk.closeParen _) number = _
  simp [Walk.closeParen, hdecl, Walk.openBrace, Walk.openBrace.openBlock, Walk.closeHeader,
    newScope, atRest]

/-- Reading the word that starts a loop. -/
theorem read_for {s : ScopeStack} {findings : List Finding} (hasm : s.inside .asm = false)
    (hprev : prev.any isMemberMark = false) (hnext : Follows '(' cs) :
    read env code prev column ("for".toList ++ cs) (atRest s findings) =
      read env code (some ⟨.ident, "for", column⟩) (column + 3) cs
        { scopes := s, pendingHeader := some .forLoop, findings } := by
  obtain ⟨at_, rest, htokens⟩ := hnext.tokensFrom (column + 3)
  have hprev' : (prev.any fun p => p.text == "." || p.text == "->") = false := hprev
  apply read_identifier (by decide) hnext.head?
  change Walk.ident env _ code prev _ (tokensFrom 0 (column + 3) cs) = _
  rw [htokens]
  simp [Walk.ident, atRest, hasm, hprev', tagKind?, qualifierWords, headText?]

/-- Reading the name of a function that is being declared. -/
theorem read_function {s : ScopeStack} {findings : List Finding} {name : String}
    (hname : isIdentifier name = true) (hkeyword : name ∉ Catalog.keywordNames)
    (hcatalog : env.catalog.isKeyword name = false)
    (huser : env.userTypes.contains name = false) (hasm : s.inside .asm = false)
    (hprev : prev.any isMemberMark = false) (hnext : Follows '(' cs) :
    read env code prev column (name.toList ++ cs)
        { scopes := s, decl := some {}, findings } =
      read env code (some ⟨.ident, name, column⟩) (column + name.length) cs
        { scopes := s, pendingHeader := some .function, findings } := by
  obtain ⟨at_, rest, htokens⟩ := hnext.tokensFrom (column + name.length)
  apply read_identifier hname hnext.head?
  rw [ident_eq_name hasm hprev (not_mem_walkWords hkeyword), htokens]
  simp [Walk.name, isType_eq_false hkeyword huser, hcatalog, Walk.declarator, headText?]

/-- Reading the parenthesis that opens a header. -/
theorem read_header_start {s : ScopeStack} {kind : ScopeKind} {number : Nat} {text : List Char}
    {findings : List Finding} :
    read env ⟨number, text, []⟩ prev column ('(' :: cs)
        { scopes := s, pendingHeader := some kind, findings } =
      read env ⟨number, text, []⟩ (some ⟨.punct, "(", column⟩) (column + 1) cs
        { scopes := s.enter (newScope s kind number true []), parens := 1, findings } := by
  rw [read_mark (by decide)]
  rfl

/-- A loop header stays open at its semicolons. -/
theorem endStatement_header {s : ScopeStack} {kind : ScopeKind} {number : Nat}
    {declared : List Variable} {findings : List Finding} {decl : Option OpenDeclaration} :
    Walk.endStatement
        { scopes := s.enter (newScope s kind number true declared)
          parens := 1
          decl
          findings } =
      { scopes := s.enter (newScope s kind number true declared), parens := 1, findings } := by
  have hkeep := popWhile_eq_self (s := s.enter (newScope s kind number true declared))
    (p := fun scope => scope.awaitingBrace && !scope.headerOpen)
    (by rw [ScopeStack.current_enter]; rfl)
  simp [Walk.endStatement, hkeep]

/-- The counter of a loop is declared in the header, which stays open behind the semicolon. -/
theorem read_counter_declaration {s : ScopeStack} (hs : s.WellFormed) (hsettled : Settled s)
    {number : Nat} {text : List Char} {counter : String} {findings : List Finding}
    (hfit : Fits env counter) (hprev : prev.any isMemberMark = false) :
    read env ⟨number, text, []⟩ prev column
        (counter.toList ++ ' ' :: '=' :: ' ' :: '0' :: ';' :: ' ' :: cs)
        { scopes := s.enter (newScope s .forLoop number true [])
          parens := 1
          decl := some {}
          findings } =
      read env ⟨number, text, []⟩ (some ⟨.punct, ";", column + counter.length + 4⟩)
        (column + counter.length + 6) cs
        { scopes := s.enter (newScope s .forLoop number true
            [{ name := counter, line := number, column }])
          parens := 1
          findings } := by
  have hasm : (s.enter (newScope s .forLoop number true [])).inside .asm = false :=
    inside_enter_eq_false hs (by simp [newScope]) hsettled.inside_asm
  have hfirst : redeclared (s.enter (newScope s .forLoop number true []))
      { name := counter, line := number, column } = [] := by
    simp [redeclared, newScope, lookup?]
  rw [read_declared hfit hasm hprev (follows_space_mark (by decide) _) (by decide),
    declareNew_enter, hfirst, List.append_nil, read_space, read_mark (by decide), read_space,
    read_digit (by decide) rfl (by decide) rfl, read_mark (by decide), read_space]
  change read env _ _ _ cs (Walk.endStatement
    { scopes := s.enter (newScope s .forLoop number true
        [{ name := counter, line := number, column }])
      parens := 1
      decl := some { expectName := false, inInitializer := true, names := 1 }
      findings }) = _
  rw [endStatement_header]
  rfl

/-- The counter of a loop is used in the header. -/
theorem read_counter {s : ScopeStack} (hs : s.WellFormed) (hsettled : Settled s) {number : Nat}
    {text : List Char} {counter : String} {mark : Char} {v : Variable}
    {findings : List Finding} (hfit : Fits env counter) (hv : v.name = counter)
    (hnext : Follows mark cs)
    (hparen : String.singleton mark ≠ "(") (hcolon : String.singleton mark ≠ ":")
    (hprev : prev.any isMemberMark = false) :
    read env ⟨number, text, []⟩ prev column (counter.toList ++ cs)
        { scopes := s.enter (newScope s .forLoop number true [v]), parens := 1, findings } =
      read env ⟨number, text, []⟩ (some ⟨.ident, counter, column⟩) (column + counter.length) cs
        { scopes := s.enter (newScope s .forLoop number true [{ v with used := true }])
          parens := 1
          findings } := by
  have hheld : holds (newScope s .forLoop number true [v]).declared counter = true := by
    simp [newScope, holds, lookup?, hv]
  rw [read_use hfit hnext hparen hcolon rfl
    (inside_enter_eq_false hs (by simp [newScope]) hsettled.inside_asm)
    (inside_enter_eq_false hs (by simp [newScope]) hsettled.inside_enum) hprev,
    use_enter hheld, undefinedUse_enter hs hheld]
  simp [newScope, markUsed, hv]

/-- The header of a loop, word by word. -/
theorem loopText_eq (counter : String) :
    loopText counter = "for".toList ++ ' ' :: '(' :: ("int".toList ++ ' ' :: (counter.toList ++
      ' ' :: '=' :: ' ' :: '0' :: ';' :: ' ' :: (counter.toList ++ ' ' :: '<' :: ' ' :: '1' ::
      ';' :: ' ' :: (counter.toList ++ ['+', '+', ')', ' ', '{'])))) := by
  have hfor : "for (int ".toList = "for".toList ++ ' ' :: '(' :: ("int".toList ++ [' ']) := by
    decide
  have hstart : " = 0; ".toList = [' ', '=', ' ', '0', ';', ' '] := by decide
  have hbound : " < 1; ".toList = [' ', '<', ' ', '1', ';', ' '] := by decide
  have hend : "++) \x7b".toList = ['+', '+', ')', ' ', '{'] := by decide
  unfold loopText
  -- Literals are compared character by character unless they are made opaque first.
  generalize "for (int ".toList = word at *
  generalize " = 0; ".toList = start at *
  generalize " < 1; ".toList = bound at *
  generalize "++) \x7b".toList = last at *
  generalize "for".toList = keyword at *
  generalize "int".toList = type at *
  subst hfor hstart hbound hend
  simp

/-- The header row of a loop enters a scope with the counter, which its header uses. -/
theorem line_loop {s : ScopeStack} (hs : s.WellFormed) (hsettled : Settled s) {counter : String}
    (hfit : Fits env counter) (findings : List Finding) (number width depth : Nat) :
    (atRest s findings).line env ⟨number, margin width depth ++ loopText counter, []⟩ =
      atRest (s.enter (newScope s .forLoop number false
        [{ counterOf number (width * depth) counter with used := true }])) findings := by
  have hasm : (s.enter (newScope s .forLoop number true [])).inside .asm = false :=
    inside_enter_eq_false hs (by simp [newScope]) hsettled.inside_asm
  have hheader : Walk.startDeclaration
        { scopes := s.enter (newScope s .forLoop number true []), parens := 1, findings } =
      { scopes := s.enter (newScope s .forLoop number true [])
        parens := 1
        decl := some {}
        findings } := by
    simp [Walk.startDeclaration, Walk.inFunctionHeader, newScope]
  rw [line_eq_read, read_margin, loopText_eq, read_for hsettled.inside_asm rfl
    (follows_space_mark (by decide) _), read_space, read_header_start,
    read_type (.inl rfl) rfl hasm rfl rfl, read_space, hheader,
    read_counter_declaration hs hsettled hfit rfl,
    read_counter hs hsettled hfit (by rfl) (follows_space_mark (by decide) _) (by decide)
      (by decide) (by rfl),
    read_space, read_mark (by decide), read_space, read_digit (by decide) rfl (by decide) rfl,
    read_mark (by decide), read_space]
  change read env _ _ _ _ (Walk.endStatement
    { scopes := s.enter (newScope s .forLoop number true _), parens := 1, findings }) = _
  rw [endStatement_header, read_counter hs hsettled hfit (by rfl) (follows_mark (by decide) _)
    (by decide) (by decide) (by rfl), read_mark (by decide), read_mark (by decide)]
  exact read_header_end rfl

/-- Declarators add to a scope one after the other. -/
theorem append_newVariables_cons (scope : List Variable) (v : Variable) (rest : List Variable) :
    scope ++ newVariables scope (v :: rest) =
      scope ++ newVariables scope [v] ++ newVariables (scope ++ newVariables scope [v]) rest := by
  cases h : holds scope v.name <;> simp [newVariables, h]

/-- Reading a parameter of a function. -/
theorem read_parameter {s : ScopeStack} (hs : s.WellFormed) (hsettled : Settled s) {number : Nat}
    {text : List Char} {declared : List Variable} {findings : List Finding}
    {decl : Option OpenDeclaration} {name : String} {mark : Char}
    (hdecl : (decl.any fun d => d.expectName && d.names == 0 && d.nest == 0) = false)
    (hfit : Fits env name) (hprev : prev.any isMemberMark = false) (hnext : Follows mark cs)
    (hmark : String.singleton mark ≠ "(") :
    read env ⟨number, text, []⟩ prev column ("int".toList ++ ' ' :: (name.toList ++ cs))
        { scopes := s.enter (newScope s .function number true declared), parens := 1, decl,
          findings } =
      read env ⟨number, text, []⟩ (some ⟨.ident, name, column + 4⟩) (column + 4 + name.length) cs
        { scopes := s.enter (newScope s .function number true (declared ++
            newVariables declared [⟨name, number, (column + 4 : Nat), [], true, false⟩]))
          parens := 1
          decl := some { isParameter := true, expectName := false, names := 1 }
          findings := findings ++
            redeclared (s.enter (newScope s .function number true declared))
              ⟨name, number, (column + 4 : Nat), [], true, false⟩ } := by
  have hasm : (s.enter (newScope s .function number true declared)).inside .asm = false :=
    inside_enter_eq_false hs (by simp [newScope]) hsettled.inside_asm
  have hheader : Walk.startDeclaration
        { scopes := s.enter (newScope s .function number true declared), parens := 1, decl,
          findings } =
      { scopes := s.enter (newScope s .function number true declared)
        parens := 1
        decl := some { isParameter := true }
        findings } := by
    simp [Walk.startDeclaration, Walk.inFunctionHeader, newScope]
  rw [read_type (.inl rfl) rfl hasm hprev hdecl, read_space, hheader,
    read_declared hfit hasm rfl hnext hmark, declareNew_enter]
  rfl

/-- Reading the parameters of a function and the end of its header. -/
theorem read_parameters {s : ScopeStack} (hs : s.WellFormed) (hsettled : Settled s) {number : Nat}
    {text : List Char} {declared : List Variable} {findings : List Finding}
    {decl : Option OpenDeclaration}
    (hdecl : (decl.any fun d => d.expectName && d.names == 0 && d.nest == 0) = false)
    {first : String} {more : List String}
    (hfit : ∀ name ∈ first :: more, Fits env name) (hprev : prev.any isMemberMark = false) :
    read env ⟨number, text, []⟩ prev column
        ("int".toList ++ ' ' :: (joinNames ", int " (first :: more) ++ [')', ' ', '{']))
        { scopes := s.enter (newScope s .function number true declared), parens := 1, decl,
          findings } =
      atRest (s.enter (newScope s .function number false (declared ++
          newVariables declared (declarators number 6 true (column + 4) (first :: more)))))
        (findings ++ redeclarations (s.enter (newScope s .function number true declared))
          (declarators number 6 true (column + 4) (first :: more))) := by
  have hfirst := hfit first List.mem_cons_self
  induction more generalizing first declared findings prev column decl with
  | nil =>
    rw [joinNames_singleton, read_parameter hs hsettled hdecl hfirst hprev
      (follows_mark (by decide) _) (by decide), read_header_end rfl]
    simp [declarators, redeclarations]
  | cons second more ih =>
    have hmore : ∀ name ∈ second :: more, Fits env name :=
      fun name hname => hfit name (List.mem_cons_of_mem _ hname)
    rw [joinNames_cons_cons, List.append_assoc, List.append_assoc]
    change read env _ prev column ("int".toList ++ ' ' :: (first.toList ++ ',' :: ' ' ::
      ("int".toList ++ ' ' :: (joinNames ", int " (second :: more) ++ [')', ' ', '{'])))) _ = _
    rw [read_parameter hs hsettled hdecl hfirst hprev (follows_mark (by decide) _) (by decide),
      read_mark (by decide), read_space]
    change read env _ _ _ _
      { scopes := s.enter (newScope s .function number true (declared ++ newVariables declared
          [⟨first, number, (column + 4 : Nat), [], true, false⟩]))
        parens := 1
        decl := some { isParameter := true, names := 1 }
        findings := findings ++ redeclared _ _ } = _
    rw [ih (by rfl) hmore (by rfl) (hmore second List.mem_cons_self)]
    have hadded := append_newVariables_cons declared
      ⟨first, number, (column + 4 : Nat), [], true, false⟩
      (declarators number 6 true (column + 4 + first.length + 6) (second :: more))
    have hsplit : declarators number 6 true (column + 4) (first :: second :: more) =
        ⟨first, number, (column + 4 : Nat), [], true, false⟩ ::
          declarators number 6 true (column + 4 + first.length + 6) (second :: more) := rfl
    rw [hsplit, hadded, redeclarations, declareNew_enter, List.append_assoc findings]
    rfl

/-- The header of a function without parameters, word by word. -/
theorem headerText_nil (name : String) :
    headerText name [] = "void".toList ++ ' ' :: (name.toList ++ ['(', ')', ' ', '{']) := by
  have hvoid : "void ".toList = "void".toList ++ [' '] := by decide
  have hend : ") \x7b".toList = [')', ' ', '{'] := by decide
  unfold headerText parameterText
  rw [hvoid, hend]
  simp

/-- The header of a function with parameters, word by word. -/
theorem headerText_cons (name first : String) (more : List String) :
    headerText name (first :: more) = "void".toList ++ ' ' :: (name.toList ++ '(' ::
      ("int".toList ++ ' ' :: (joinNames ", int " (first :: more) ++ [')', ' ', '{']))) := by
  have hvoid : "void ".toList = "void".toList ++ [' '] := by decide
  have hint : "int ".toList = "int".toList ++ [' '] := by decide
  have hend : ") \x7b".toList = [')', ' ', '{'] := by decide
  unfold headerText parameterText
  rw [hvoid, hint, hend]
  simp

/-- The header row of a function enters a scope with its parameters. -/
theorem line_function {s : ScopeStack} (hs : s.WellFormed) (hsettled : Settled s) {name : String}
    (hname : isIdentifier name = true) (hkeyword : name ∉ Catalog.keywordNames)
    (hcatalog : env.catalog.isKeyword name = false)
    (huser : env.userTypes.contains name = false) {parameters : List String}
    (hfit : ∀ name ∈ parameters, Fits env name) (findings : List Finding) (number : Nat) :
    (atRest s findings).line env ⟨number, headerText name parameters, []⟩ =
      atRest (s.enter (newScope s .function number false
          (newVariables [] (parametersOf number name parameters))))
        (findings ++ redeclarations (s.enter (newScope s .function number true []))
          (parametersOf number name parameters)) := by
  have hheader : (atRest s findings).inFunctionHeader = false := by
    simp [Walk.inFunctionHeader, atRest, hsettled.current.headerOpen]
  rw [line_eq_read]
  cases parameters with
  | nil =>
    rw [headerText_nil, read_type (.inr rfl) rfl hsettled.inside_asm rfl rfl, read_space,
      Walk.startDeclaration, hheader]
    change read env _ _ _ _ { scopes := s, decl := some {}, findings } = _
    rw [read_function hname hkeyword hcatalog huser hsettled.inside_asm rfl
      (follows_mark (by decide) _), read_header_start, read_header_end rfl]
    simp [parametersOf, declarators, redeclarations, newVariables]
  | cons first more =>
    rw [headerText_cons, read_type (.inr rfl) rfl hsettled.inside_asm rfl rfl, read_space,
      Walk.startDeclaration, hheader]
    change read env _ _ _ _ { scopes := s, decl := some {}, findings } = _
    rw [read_function hname hkeyword hcatalog huser hsettled.inside_asm rfl
      (follows_mark (by decide) _), read_header_start,
      read_parameters hs hsettled rfl hfit (by rfl)]
    have hcolumn : "void".length + 1 + name.length + 1 + 4 = name.length + 10 := by
      have hvoid : "void".length = 4 := by decide
      omega
    rw [Nat.zero_add, hcolumn]
    rfl

end BrickLint.LexicalScope
