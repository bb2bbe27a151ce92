import BrickLint.Analysis
import BrickLint.Proofs.LexicalScope.Rows

/-!
# The walk follows the tree

Reading the rows of a list of statements, one after the other, does to the scopes what lexical
scoping says about the tree. The statement for a row is carried along whole programs by what a *run*
keeps: the scopes stay settled, the stack grows by the scopes that are opened and closed again, and
only errors are found.
-/

namespace BrickLint.LexicalScope

open Text

variable {env : Environment} {s t u : ScopeStack} {line : Nat}

/-- Rows as lines of code, numbered from a line on. -/
def codeLines (line : Nat) : List (List Char) → List CodeLine
  | [] => []
  | row :: rows => ⟨line, row, []⟩ :: codeLines (line + 1) rows

/-- The second part of some rows is numbered on. -/
theorem codeLines_append (line : Nat) (rows rows' : List (List Char)) :
    codeLines line (rows ++ rows') =
      codeLines line rows ++ codeLines (line + rows.length) rows' := by
  induction rows generalizing line with
  | nil => rfl
  | cons row rows ih =>
    have hline : line + 1 + rows.length = line + (rows.length + 1) := by omega
    simp [codeLines, ih, hline]

/-- Reading rows leads from a stack to another one, opens scopes and finds errors. -/
structure Runs (env : Environment) (line : Nat) (rows : List (List Char)) (s t : ScopeStack)
    (opened : List (List Variable)) (errors : List Diagnostic) : Prop where
  /-- The scopes have got their bodies. -/
  settled : Settled t
  /-- The same scopes are open, and others have been opened and closed. -/
  grows : s.Grows t opened
  /-- The rows add findings, all of them errors, to those that were there. -/
  found : ∃ found, (∀ findings, (codeLines line rows).foldl (Walk.line env) (atRest s findings) =
      atRest t (findings ++ found)) ∧ (∀ f ∈ found, f.isError = true) ∧
    diagnosticsOf found = errors

/-- Without rows nothing happens. -/
theorem Runs.nil (hsettled : Settled s) : Runs env line [] s s [] [] :=
  ⟨hsettled, .refl s, [], fun findings => by simp [codeLines], by simp, rfl⟩

/-- Runs follow each other. -/
theorem Runs.append {rows rows' : List (List Char)} {opened opened' : List (List Variable)}
    {errors errors' : List Diagnostic} (hs : s.WellFormed)
    (hst : Runs env line rows s t opened errors)
    (htu : Runs env (line + rows.length) rows' t u opened' errors') :
    Runs env line (rows ++ rows') s u (opened ++ opened') (errors ++ errors') := by
  obtain ⟨found, hfold, herror, hdiagnostics⟩ := hst.found
  obtain ⟨found', hfold', herror', hdiagnostics'⟩ := htu.found
  refine ⟨htu.settled, hst.grows.trans htu.grows hs, found ++ found', ?_, ?_, ?_⟩
  · intro findings
    rw [codeLines_append, List.foldl_append, hfold, hfold', List.append_assoc]
  · intro f hf
    exact (List.mem_append.mp hf).elim (herror f) (herror' f)
  · rw [← hdiagnostics, ← hdiagnostics']
    exact List.map_append

/-- A row and the rows after it. -/
theorem Runs.cons {row : List Char} {rows : List (List Char)} {opened : List (List Variable)}
    {errors errors' : List Diagnostic} (hs : s.WellFormed)
    (hst : Runs env line [row] s t [] errors)
    (htu : Runs env (line + 1) rows t u opened errors') :
    Runs env line (row :: rows) s u opened (errors ++ errors') :=
  hst.append hs htu

/-- Rows with a header before them and a closing row after them are read in a scope of their own. -/
theorem Runs.scoped {header : List Char} {rows : List (List Char)} {scope : Scope}
    {opened outer : List (List Variable)} {own : List Variable} {errors errors' : List Diagnostic}
    {found : List Finding} (hs : s.WellFormed)
    (hheader : ∀ findings, (atRest s findings).line env ⟨line, header, []⟩ =
      atRest (s.enter scope) (findings ++ found))
    (herror : ∀ f ∈ found, f.isError = true) (hdiagnostics : diagnosticsOf found = errors)
    (hbody : Runs env (line + 1) rows (s.enter scope) t opened errors')
    (hframes : t.frames = own :: outer) (width depth : Nat) :
    Runs env line (header :: rows ++ [margin width depth ++ ['}']]) s t.pop (own :: opened)
        (errors ++ errors') ∧ t.pop.frames = outer := by
  obtain ⟨found', hfold, herror', hdiagnostics'⟩ := hbody.found
  obtain ⟨hgrows, hpop⟩ := hbody.grows.leave hs hframes
  refine ⟨⟨hbody.settled.pop, hgrows, found ++ found', ?_, ?_, ?_⟩, hpop⟩
  · intro findings
    rw [List.cons_append, codeLines, List.foldl_cons, hheader, codeLines_append, List.foldl_append,
      hfold, codeLines, codeLines, List.foldl_cons, List.foldl_nil, line_close hbody.settled,
      List.append_assoc]
  · intro f hf
    exact (List.mem_append.mp hf).elim (herror f) (herror' f)
  · rw [← hdiagnostics, ← hdiagnostics']
    exact List.map_append

/-- Rows after a scope of their own are numbered on. -/
theorem Runs.after_scope {header closing : List Char} {rows rows' : List (List Char)}
    {opened opened' : List (List Variable)} {errors errors' : List Diagnostic} (hs : s.WellFormed)
    (hst : Runs env line (header :: rows ++ [closing]) s t opened errors)
    (htu : Runs env (line + rows.length + 2) rows' t u opened' errors') :
    Runs env line (header :: rows ++ closing :: rows') s u (opened ++ opened')
      (errors ++ errors') := by
  have hrows : header :: rows ++ closing :: rows' = (header :: rows ++ [closing]) ++ rows' := by
    simp
  have hlength : (header :: rows ++ [closing]).length = rows.length + 2 := by simp
  rw [hrows]
  apply hst.append hs
  rw [hlength]
  exact htu

variable {own : List Variable} {outer : List (List Variable)}

/-- The innermost scope has the variables of the innermost frame. -/
theorem declared_current (hs : s.WellFormed) (hframes : s.frames = own :: outer) :
    s.current.declared = own := by
  rw [ScopeStack.frames_eq_cons hs] at hframes
  exact (List.cons.inj hframes).1

/-- Declarators add what is new to the innermost frame. -/
theorem frames_foldl_declareNew (hs : s.WellFormed) (hframes : s.frames = own :: outer)
    (vs : List Variable) :
    (vs.foldl declareNew s).frames = (own ++ newVariables own vs) :: outer := by
  induction vs generalizing s own with
  | nil => simpa [newVariables] using hframes
  | cons v rest ih =>
    have hdeclared := frames_declareNew hs v
    rw [declared_current hs hframes, hframes, List.tail_cons] at hdeclared
    rw [List.foldl_cons, ih ((grows_declareNew hs v).wellFormed hs) hdeclared,
      append_newVariables_cons own v rest]

/-- Declarators open no scope. -/
theorem grows_foldl_declareNew (hs : s.WellFormed) (vs : List Variable) :
    s.Grows (vs.foldl declareNew s) [] := by
  induction vs generalizing s with
  | nil => exact .refl s
  | cons v rest ih =>
    have hfirst := grows_declareNew hs v
    exact hfirst.trans (ih (hfirst.wellFormed hs)) hs

/-- Declarators keep a stack settled. -/
theorem settled_foldl_declareNew (hsettled : Settled s) (vs : List Variable) :
    Settled (vs.foldl declareNew s) := by
  induction vs generalizing s with
  | nil => exact hsettled
  | cons v rest ih => exact ih (hsettled.declareNew v)

/-- The finding about a second declaration is shown as the reference error. -/
theorem toDiagnostic_redeclared {v : Variable} (hlength : 0 < v.name.length) (first : Int) :
    Finding.toDiagnostic ⟨.variableRedeclared v.name first, v.line, v.column, v.name.length⟩ =
      redeclarationError v first := by
  have hmax : max 1 (v.name.length : Int).toNat = v.name.length := by omega
  have hmessage : (Cause.variableRedeclared v.name first).message =
      "Variable " ++ quoted v.name ++ " already declared at line " ++ toString (first + 1) :=
    String.append_assoc.symm
  rw [Finding.toDiagnostic, hmessage, Diagnostic.at, hmax]
  rfl

/-- The findings about declarators are errors. -/
theorem isError_redeclarations (s : ScopeStack) (vs : List Variable) :
    ∀ f ∈ redeclarations s vs, f.isError = true := by
  induction vs generalizing s with
  | nil => simp [redeclarations]
  | cons v rest ih =>
    intro f hf
    rcases List.mem_append.mp hf with hf | hf
    · obtain ⟨first, _, rfl⟩ := List.mem_map.mp hf
      rfl
    · exact ih _ f hf

/-- The findings about declarators are the reference errors. -/
theorem diagnosticsOf_redeclarations (hs : s.WellFormed) (hframes : s.frames = own :: outer)
    {vs : List Variable} (hlength : ∀ v ∈ vs, 0 < v.name.length) :
    diagnosticsOf (redeclarations s vs) = declarationErrors own vs := by
  induction vs generalizing s own with
  | nil => rfl
  | cons v rest ih =>
    have hdeclared := frames_foldl_declareNew hs hframes [v]
    have hrest := ih ((grows_declareNew hs v).wellFormed hs) hdeclared
      fun w hw => hlength w (List.mem_cons_of_mem _ hw)
    rw [redeclarations, diagnosticsOf, List.map_append]
    change diagnosticsOf _ ++ diagnosticsOf _ = _
    rw [hrest, redeclared, declared_current hs hframes]
    cases hfirst : lookup? own v.name with
    | none => simp [declarationErrors, hfirst, newVariables, holds, diagnosticsOf]
    | some first =>
      have hshown := toDiagnostic_redeclared (hlength v List.mem_cons_self) first.line
      simp [declarationErrors, hfirst, newVariables, holds, diagnosticsOf, hshown]

/-- The finding about an undefined name is shown as the reference error. -/
theorem toDiagnostic_undefined {name : String} (hlength : 0 < name.length) (line column : Nat) :
    Finding.toDiagnostic ⟨.undefinedVariable name, line, column, name.length⟩ =
      undefinedError name line column := by
  have hmax : max 1 (name.length : Int).toNat = name.length := by omega
  rw [Finding.toDiagnostic, Diagnostic.at, hmax]
  rfl

/-- The findings about a use are errors. -/
theorem isError_undefinedUse (s : ScopeStack) (name : String) (line column : Nat) :
    ∀ f ∈ undefinedUse s name line column, f.isError = true := by
  intro f hf
  unfold undefinedUse at hf
  split at hf
  · simp at hf
  · rw [List.mem_singleton.mp hf]
    rfl

/-- The findings about a use are the reference errors. -/
theorem diagnosticsOf_undefinedUse {name : String} (hlength : 0 < name.length)
    (line column : Nat) :
    diagnosticsOf (undefinedUse s name line column) = useErrors s.frames name line column := by
  unfold undefinedUse useErrors
  split
  · rfl
  · simp [diagnosticsOf, toDiagnostic_undefined hlength]

/-- The names of consecutive declarators. -/
theorem any_declarators (line gap : Nat) (isParameter : Bool) (column : Nat) (names : List String)
    (name : String) :
    (declarators line gap isParameter column names).any (·.name == name) =
      names.contains name := by
  induction names generalizing column with
  | nil => rfl
  | cons first rest ih =>
    simp only [declarators, List.any_cons, ih, List.contains_cons]
    rw [BEq.comm]

/-- Declared names are not empty. -/
theorem length_pos_of_mem_declarators {line gap column : Nat} {isParameter : Bool}
    {names : List String} (hfit : ∀ name ∈ names, Fits env name) :
    ∀ v ∈ declarators line gap isParameter column names, 0 < v.name.length := by
  induction names generalizing column with
  | nil => simp [declarators]
  | cons first rest ih =>
    intro v hv
    rcases List.mem_cons.mp hv with rfl | hv
    · exact length_pos_of_isIdentifier (hfit first List.mem_cons_self).identifier
    · exact ih (fun name hname => hfit name (List.mem_cons_of_mem _ hname)) v hv

/-- The row of a declaration runs. -/
theorem runs_declaration (hs : s.WellFormed) (hsettled : Settled s)
    (hframes : s.frames = own :: outer) {first : String} {more : List String}
    (hfit : ∀ name ∈ first :: more, Fits env name) (line width depth : Nat) :
    Runs env line [margin width depth ++ declarationText (first :: more)] s
      ((declaredBy line (width * depth) (first :: more)).foldl declareNew s) []
      (declarationErrors own (declaredBy line (width * depth) (first :: more))) where
  settled := settled_foldl_declareNew hsettled _
  grows := grows_foldl_declareNew hs _
  found :=
    ⟨redeclarations s (declaredBy line (width * depth) (first :: more)),
      fun findings => line_declaration hs hsettled hfit findings line width depth,
      isError_redeclarations s _,
      diagnosticsOf_redeclarations hs hframes (length_pos_of_mem_declarators hfit)⟩

/-- The row of an assignment runs. -/
theorem runs_assignment (hs : s.WellFormed) (hsettled : Settled s)
    (hframes : s.frames = own :: outer) {target source : String} (htarget : Fits env target)
    (hsource : Fits env source) (line width depth : Nat) :
    Runs env line [margin width depth ++ assignmentText target source] s
      ((s.use target).use source) []
      (useErrors (own :: outer) target line (width * depth) ++
        useErrors (own :: outer) source line (width * depth + target.length + 3)) := by
  have hgrows := grows_use hs target
  have hwellFormed := hgrows.wellFormed hs
  refine ⟨(hsettled.use target).use source, hgrows.trans (grows_use hwellFormed source) hs,
    undefinedUse s target line (width * depth) ++
      undefinedUse (s.use target) source line (width * depth + target.length + 3), ?_, ?_, ?_⟩
  · intro findings
    rw [← List.append_assoc]
    exact line_assignment hsettled htarget hsource findings line width depth
  · intro f hf
    exact (List.mem_append.mp hf).elim (isError_undefinedUse _ _ _ _ f)
      (isError_undefinedUse _ _ _ _ f)
  · have htarget' := diagnosticsOf_undefinedUse (s := s)
      (length_pos_of_isIdentifier htarget.identifier) line (width * depth)
    have hsource' := diagnosticsOf_undefinedUse (s := s.use target)
      (length_pos_of_isIdentifier hsource.identifier) line (width * depth + target.length + 3)
    rw [frames_use hs, useErrors_readFrames] at hsource'
    rw [← hframes, ← htarget', ← hsource']
    exact List.map_append

/-- An assignment marks the variables of both names. -/
theorem frames_assignment (hs : s.WellFormed) (hframes : s.frames = own :: outer)
    (target source : String) :
    ((s.use target).use source).frames =
      readFrames (fun name => target == name || source == name) (own :: outer) := by
  have hwellFormed := (grows_use hs target).wellFormed hs
  rw [frames_use hwellFormed, frames_use hs, hframes, readFrames_readFrames]
  congr 1
  funext name
  rw [BEq.comm, BEq.comm (a := name)]

/-- A scope with declarators added holds its own names and theirs. -/
theorem holds_append_newVariables (scope vs : List Variable) (name : String) :
    holds (scope ++ newVariables scope vs) name =
      (holds scope name || vs.any (·.name == name)) := by
  induction vs generalizing scope with
  | nil => simp [newVariables]
  | cons v rest ih =>
    rw [append_newVariables_cons, ih, holds_append, List.any_cons, Bool.or_assoc]
    cases h : holds scope v.name with
    | false => simp [newVariables, h, holds_eq_any]
    | true =>
      by_cases hname : v.name = name
      · subst hname
        simp [h]
      · have hnew : newVariables scope [v] = [] := by simp [newVariables, h]
        have hother : (v.name == name) = false := by simpa using hname
        rw [hnew, hother]
        rfl

/-- New variables are not marked. -/
theorem unmarked_newVariables (scope : List Variable) {vs : List Variable}
    (hvs : ∀ v ∈ vs, v.used = false) :
    unmarked (newVariables scope vs) = newVariables scope vs := by
  induction vs generalizing scope with
  | nil => rfl
  | cons v rest ih =>
    have hrest := fun w hw => hvs w (List.mem_cons_of_mem v hw)
    have hv : { v with used := false } = v := by
      rw [← hvs v List.mem_cons_self]
    unfold newVariables
    split
    · exact ih scope hrest
    · rw [unmarked, List.map_cons, hv]
      exact congrArg (v :: ·) (ih _ hrest)

/-- Declarators are not marked. -/
theorem used_of_mem_declarators {line gap column : Nat} {isParameter : Bool}
    {names : List String} :
    ∀ v ∈ declarators line gap isParameter column names, v.used = false := by
  induction names generalizing column with
  | nil => simp [declarators]
  | cons first rest ih =>
    intro v hv
    rcases List.mem_cons.mp hv with rfl | hv
    · rfl
    · exact ih v hv

/-- How many rows are printed for a list of statements. -/
@[simp] theorem Body.length_rows (width depth : Nat) (b : Body) :
    (b.rows width depth).length = b.height := by
  induction b generalizing depth with
  | done => rfl
  | declare first more rest ih => simp [Body.rows, Body.height, ih]
  | assign target source rest ih => simp [Body.rows, Body.height, ih]
  | block body rest ihbody ihrest =>
    simp [Body.rows, Body.height, ihbody, ihrest]
    omega
  | loop counter body rest ihbody ihrest =>
    simp [Body.rows, Body.height, ihbody, ihrest]
    omega

/-- A scope that got its body is settled. -/
theorem isSettled_newScope (s : ScopeStack) (number : Nat) (declared : List Variable)
    {kind : ScopeKind} (haggregate : kind ≠ .aggregate) (henum : kind ≠ .enum)
    (hasm : kind ≠ .asm) : IsSettled (newScope s kind number false declared) :=
  ⟨rfl, rfl, haggregate, henum, hasm⟩

/-- Declarators, unlike the variables that were there before, are not marked. -/
theorem unmarked_append_declarators (own : List Variable) (line gap column : Nat)
    (isParameter : Bool) (names : List String) :
    unmarked (own ++ newVariables own (declarators line gap isParameter column names)) =
      unmarked own ++ newVariables own (declarators line gap isParameter column names) := by
  rw [unmarked_append, unmarked_newVariables _ used_of_mem_declarators]

/-- What a statement and the statements after it use in the frames around their scope. -/
theorem readFrames_of_holds (own : List Variable) (used free : String → Bool)
    (outer : List (List Variable)) :
    readFrames (fun name => !holds own name && free name)
        (readFrames (fun name => used name && !holds own name) outer) =
      readFrames (fun name => !holds own name && (used name || free name)) outer := by
  rw [readFrames_readFrames]
  congr 1
  funext name
  cases holds own name <;> simp

/-- The walk follows a list of statements: in a scope with the variables `own` and the scopes
`outer` around it, the rows are read as lexical scoping says, and the frames are marked
accordingly. -/
def IsFollowed (env : Environment) (width : Nat) (b : Body) : Prop :=
  ∀ {s : ScopeStack} {own : List Variable} {outer : List (List Variable)} (line depth : Nat),
    s.WellFormed → Settled s → s.frames = own :: outer →
    ∃ t, Runs env line (b.rows width depth) s t (b.scopes width depth line)
        (b.errors width depth line (unmarked own) (outer.map unmarked)) ∧
      t.frames = (markUsed (b.reads ·) own ++ b.added width depth line (unmarked own)) ::
        readFrames (fun name => !holds own name && b.free name) outer

/-- Statements in a scope of their own, which uses names around it, and the statements after it. -/
theorem IsFollowed.after_scope {rest : Body} {width depth : Nat} (hrest : IsFollowed env width rest)
    (hs : s.WellFormed) {header : List Char} {rows : List (List Char)}
    {opened : List (List Variable)} {errors : List Diagnostic} {used : String → Bool}
    (hscoped : Runs env line (header :: rows ++ [margin width depth ++ ['}']]) s t opened errors)
    (hframes : t.frames = readFrames used (own :: outer)) :
    ∃ u, Runs env line (header :: rows ++ (margin width depth ++ ['}']) :: rest.rows width depth)
        s u (opened ++ rest.scopes width depth (line + rows.length + 2))
        (errors ++ rest.errors width depth (line + rows.length + 2) (unmarked own)
          (outer.map unmarked)) ∧
      u.frames = (markUsed (fun name => used name || rest.reads name) own ++
          rest.added width depth (line + rows.length + 2) (unmarked own)) ::
        readFrames (fun name => !holds own name && (used name || rest.free name)) outer := by
  rw [readFrames] at hframes
  obtain ⟨u, hruns, hu⟩ := hrest (line + rows.length + 2) depth (hscoped.grows.wellFormed hs)
    hscoped.settled hframes
  rw [unmarked_markUsed, map_unmarked_readFrames] at hruns
  refine ⟨u, hscoped.after_scope hs hruns, ?_⟩
  simp only [hu, unmarked_markUsed, markUsed_markUsed, holds_markUsed, readFrames_of_holds]

/-- A declaration is followed. -/
theorem isFollowed_declare {width : Nat} {first : String} {more : List String} {rest : Body}
    (hfit : ∀ name ∈ first :: more, Fits env name) (hrest : IsFollowed env width rest) :
    IsFollowed env width (.declare first more rest) := by
  intro s own outer line depth hs hsettled hframes
  have hrow := runs_declaration hs hsettled hframes hfit line width depth
  have hdeclared := frames_foldl_declareNew hs hframes
    (declaredBy line (width * depth) (first :: more))
  have hunmarked := unmarked_append_declarators own line 2 (width * depth + 4) false (first :: more)
  have hheld : ∀ name, holds (own ++ newVariables own
      (declarators line 2 false (width * depth + 4) (first :: more))) name =
      (holds own name || (first :: more).contains name) := by
    intro name
    rw [holds_append_newVariables, any_declarators]
  obtain ⟨t, hruns, ht⟩ := hrest (line + 1) depth (hrow.grows.wellFormed hs) hrow.settled hdeclared
  rw [declaredBy, hunmarked] at hruns ht
  refine ⟨t, ?_, ?_⟩
  · simp only [Body.errors, declarationErrors_unmarked, newVariables_unmarked]
    exact hrow.cons hs hruns
  · simp only [ht, hheld, markUsed_append, Body.added, Body.reads, Body.free, declaredBy,
      newVariables_unmarked, List.append_assoc, Bool.not_or, Bool.and_assoc]

/-- An assignment is followed. -/
theorem isFollowed_assign {width : Nat} {target source : String} {rest : Body}
    (htarget : Fits env target) (hsource : Fits env source) (hrest : IsFollowed env width rest) :
    IsFollowed env width (.assign target source rest) := by
  intro s own outer line depth hs hsettled hframes
  have hrow := runs_assignment hs hsettled hframes htarget hsource line width depth
  have hused := frames_assignment hs hframes target source
  rw [readFrames] at hused
  obtain ⟨t, hruns, ht⟩ := hrest (line + 1) depth (hrow.grows.wellFormed hs) hrow.settled hused
  rw [unmarked_markUsed, map_unmarked_readFrames] at hruns
  refine ⟨t, ?_, ?_⟩
  · have hmap : unmarked own :: outer.map unmarked = (own :: outer).map unmarked := rfl
    rw [Body.errors, hmap, useErrors_unmarked, useErrors_unmarked]
    exact hrow.cons hs hruns
  · simp only [ht, unmarked_markUsed, markUsed_markUsed, holds_markUsed, readFrames_of_holds,
      Body.added, Body.reads, Body.free]

/-- A block is followed. -/
theorem isFollowed_block {width : Nat} {body rest : Body} (hbody : IsFollowed env width body)
    (hrest : IsFollowed env width rest) : IsFollowed env width (.block body rest) := by
  intro s own outer line depth hs hsettled hframes
  have hsettled' := hsettled.enter
    (isSettled_newScope s line [] (by decide : ScopeKind.block ≠ _) (by decide) (by decide))
  have hinside : (s.enter (newScope s .block line false [])).frames = [] :: own :: outer := by
    rw [ScopeStack.frames_enter hs, hframes]
    rfl
  have hheader : ∀ findings, (atRest s findings).line env ⟨line, margin width depth ++ ['{'], []⟩ =
      atRest (s.enter (newScope s .block line false [])) (findings ++ []) := by
    intro findings
    rw [List.append_nil, line_open hsettled]
  obtain ⟨t, hruns, ht⟩ := hbody (line + 1) (depth + 1) (hs.enter _) hsettled' hinside
  obtain ⟨hscoped, hleft⟩ := hruns.scoped hs hheader (by simp) rfl ht width depth
  have hafter := hrest.after_scope hs hscoped hleft
  rw [Body.length_rows] at hafter
  exact hafter

/-- A loop is followed. -/
theorem isFollowed_loop {width : Nat} {counter : String} {body rest : Body}
    (hcounter : Fits env counter) (hbody : IsFollowed env width body)
    (hrest : IsFollowed env width rest) : IsFollowed env width (.loop counter body rest) := by
  intro s own outer line depth hs hsettled hframes
  let declared : Variable := { counterOf line (width * depth) counter with used := true }
  have hsettled' := hsettled.enter
    (isSettled_newScope s line [declared] (by decide : ScopeKind.forLoop ≠ _) (by decide)
      (by decide))
  have hinside : (s.enter (newScope s .forLoop line false [declared])).frames =
      [declared] :: own :: outer := by
    rw [ScopeStack.frames_enter hs, hframes]
    rfl
  have hheader : ∀ findings,
      (atRest s findings).line env ⟨line, margin width depth ++ loopText counter, []⟩ =
        atRest (s.enter (newScope s .forLoop line false [declared])) (findings ++ []) := by
    intro findings
    rw [List.append_nil, line_loop hs hsettled hcounter]
  have hmarked : markUsed (body.reads ·) [declared] = [declared] := by
    simp [markUsed, declared]
  have hhidden : (fun name => !holds [declared] name && body.free name) =
      fun name => counter != name && body.free name := by
    funext name
    simp [holds_eq_any, declared, counterOf, bne]
  obtain ⟨t, hruns, ht⟩ := hbody (line + 1) (depth + 1) (hs.enter _) hsettled' hinside
  rw [hmarked, hhidden] at ht
  obtain ⟨hscoped, hleft⟩ := hruns.scoped hs hheader (by simp) rfl ht width depth
  have hafter := hrest.after_scope hs hscoped hleft
  rw [Body.length_rows] at hafter
  exact hafter

/-- Every list of statements is followed. -/
theorem isFollowed (width : Nat) (b : Body) (hfit : ∀ name ∈ b.names, Fits env name) :
    IsFollowed env width b := by
  induction b with
  | done =>
    intro s own outer line depth hs hsettled hframes
    exact ⟨s, .nil hsettled, by simp [Body.reads, Body.free, Body.added, hframes]⟩
  | declare first more rest ih =>
    simp only [Body.names, List.forall_mem_append] at hfit
    exact isFollowed_declare hfit.1 (ih hfit.2)
  | assign target source rest ih =>
    simp only [Body.names, List.forall_mem_cons] at hfit
    exact isFollowed_assign hfit.1 hfit.2.1 (ih hfit.2.2)
  | block body rest ihbody ihrest =>
    simp only [Body.names, List.forall_mem_append] at hfit
    exact isFollowed_block (ihbody hfit.1) (ihrest hfit.2)
  | loop counter body rest ihbody ihrest =>
    simp only [Body.names, List.cons_append, List.forall_mem_cons, List.forall_mem_append] at hfit
    exact isFollowed_loop hfit.1 (ihbody hfit.2.1) (ihrest hfit.2.2)

/-- A name that a function may have where the walk meets its header. -/
structure FitsFunction (env : Environment) (name : String) : Prop where
  /-- It is an identifier. -/
  identifier : isIdentifier name = true
  /-- It is no keyword. -/
  not_keyword : name ∉ Catalog.keywordNames
  /-- It is no keyword of the catalog. -/
  isKeyword : env.catalog.isKeyword name = false
  /-- It is no user type. -/
  userTypes : env.userTypes.contains name = false

/-- The rows of a function run in a scope of their own, and use variables of the whole program. -/
theorem runs_function {name : String} {parameters : List String} {body : Body}
    (hs : s.WellFormed) (hsettled : Settled s) (hframes : s.frames = [own])
    (hname : FitsFunction env name) (hfit : ∀ name ∈ parameters, Fits env name) {width : Nat}
    (hbody : IsFollowed env width body) (line : Nat) :
    ∃ t, Runs env line (Item.rows width (.function name parameters body)) s t
        ((markUsed (body.reads ·) (newVariables [] (parametersOf line name parameters)) ++
            body.added width 1 (line + 1) (newVariables [] (parametersOf line name parameters))) ::
          body.scopes width 1 (line + 1))
        (declarationErrors [] (parametersOf line name parameters) ++
          body.errors width 1 (line + 1) (newVariables [] (parametersOf line name parameters))
            [unmarked own]) ∧
      t.frames = [markUsed (fun name => !parameters.contains name && body.free name) own] := by
  let declared := newVariables [] (parametersOf line name parameters)
  have hsettled' := hsettled.enter
    (isSettled_newScope s line declared (by decide : ScopeKind.function ≠ _) (by decide)
      (by decide))
  have hinside : (s.enter (newScope s .function line false declared)).frames =
      [declared, own] := by
    rw [ScopeStack.frames_enter hs, hframes]
    rfl
  have hempty : (s.enter (newScope s .function line true [])).frames = [[], own] := by
    rw [ScopeStack.frames_enter hs, hframes]
    rfl
  have hheader := fun findings =>
    line_function hs hsettled hname.identifier hname.not_keyword hname.isKeyword hname.userTypes
      hfit findings line
  have hlength : ∀ v ∈ parametersOf line name parameters, 0 < v.name.length :=
    length_pos_of_mem_declarators hfit
  have hdiagnostics := diagnosticsOf_redeclarations (hs.enter _) hempty hlength
  have hunmarked : unmarked declared = declared := unmarked_newVariables _ used_of_mem_declarators
  have hhidden : (fun other => !holds declared other && body.free other) =
      fun other => !parameters.contains other && body.free other := by
    funext other
    have hheld : holds declared other = parameters.contains other := by
      have hnew := holds_append_newVariables [] (parametersOf line name parameters) other
      rw [parametersOf, any_declarators] at hnew
      exact hnew
    rw [hheld]
  obtain ⟨t, hruns, ht⟩ := hbody (line + 1) 1 (hs.enter _) hsettled' hinside
  rw [hunmarked] at hruns ht
  rw [hhidden] at ht
  have hscoped := hruns.scoped hs hheader (isError_redeclarations _ _) hdiagnostics ht width 0
  exact ⟨t.pop, hscoped⟩

/-- The rows of a function are counted with its header and its closing brace. -/
theorem length_rows_function (width : Nat) (name : String) (parameters : List String)
    (body : Body) :
    (Item.rows width (.function name parameters body)).length = body.height + 2 := by
  simp [Item.rows]

/-- The rows of a program are read as lexical scoping says. -/
theorem runs_program (width : Nat) (p : Program) (hs : s.WellFormed) (hsettled : Settled s)
    (hframes : s.frames = [own]) (hnames : ∀ name ∈ p.names, Fits env name)
    (hfunctions : ∀ name ∈ p.functionNames, FitsFunction env name) (line : Nat) :
    ∃ t, Runs env line (p.rows width) s t (p.scopesFrom width line)
        (p.errorsFrom width line (unmarked own)) ∧
      t.frames = [markUsed (p.reads ·) own ++ p.addedFrom width line (unmarked own)] := by
  induction p generalizing s own line with
  | nil => exact ⟨s, .nil hsettled, by simp [hframes, Program.reads, Program.addedFrom]⟩
  | cons item rest ih =>
    have hrest : ∀ name ∈ Program.names rest, Fits env name :=
      fun name hname => hnames name (List.mem_append_right _ hname)
    cases item with
    | declare first more =>
      have hfit : ∀ name ∈ first :: more, Fits env name :=
        fun name hname => hnames name (List.mem_append_left _ hname)
      have hrow := runs_declaration hs hsettled hframes hfit line width 0
      have hdeclared := frames_foldl_declareNew hs hframes (declaredBy line 0 (first :: more))
      have hunmarked : unmarked (own ++ newVariables own (declaredBy line 0 (first :: more))) =
          unmarked own ++ newVariables own (declaredBy line 0 (first :: more)) :=
        unmarked_append_declarators own line 2 4 false (first :: more)
      obtain ⟨t, hruns, ht⟩ := ih (hrow.grows.wellFormed hs) hrow.settled hdeclared hrest
        hfunctions (line + 1)
      rw [hunmarked] at hruns ht
      refine ⟨t, ?_, ?_⟩
      · simp only [Program.errorsFrom, declarationErrors_unmarked, newVariables_unmarked]
        exact hrow.cons hs hruns
      · simp only [ht, markUsed_append, Program.addedFrom, Program.reads, newVariables_unmarked,
          List.append_assoc]
    | function name parameters body =>
      have hparameters : ∀ name ∈ parameters, Fits env name :=
        fun name hname => hnames name (List.mem_append_left _ (List.mem_append_left _ hname))
      have hbody : ∀ name ∈ body.names, Fits env name :=
        fun name hname => hnames name (List.mem_append_left _ (List.mem_append_right _ hname))
      obtain ⟨t, hfunction, ht⟩ := runs_function hs hsettled hframes
        (hfunctions name List.mem_cons_self) hparameters (isFollowed width body hbody) line
      obtain ⟨u, hruns, hu⟩ := ih (hfunction.grows.wellFormed hs) hfunction.settled ht hrest
        (fun name hname => hfunctions name (List.mem_cons_of_mem _ hname)) (line + body.height + 2)
      rw [unmarked_markUsed] at hruns
      refine ⟨u, ?_, ?_⟩
      · apply hfunction.append hs
        rw [length_rows_function]
        exact hruns
      · simp only [hu, unmarked_markUsed, markUsed_markUsed, Program.reads, Program.addedFrom]

end BrickLint.LexicalScope
