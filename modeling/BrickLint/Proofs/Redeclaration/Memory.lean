import BrickLint.Proofs.BraceScope.Runs

/-!
# What the scopes remember of declarations

A walk makes a log of declarations: each is made in a scope, for a name. Of all declarations of one
name in one scope, the scope remembers the first, and every later one is compared with it. So the
redeclarations that a walk reports can be read off its log.
-/

namespace BrickLint

/-- A declaration that a walk makes. -/
structure Declaration where
  /-- The place of the scope in the arena. -/
  scope : Nat
  /-- The variable that is declared. -/
  declared : Variable
  deriving DecidableEq

/-- The step reads an identifier that stands for itself: outside assembly blocks, not the member of
a structure, and none of the words with a meaning of their own. -/
def WalkStep.readsName (env : Environment) (step : WalkStep) : Bool :=
  step.token.kind == .ident && !step.before.scopes.inside .asm &&
    !(step.prev.any fun p => p.text == "." || p.text == "->") && step.token.text != "asm" &&
    (tagKind? step.token.text).isNone && !qualifierWords.contains step.token.text &&
    step.token.text != "goto" &&
    !decide (step.token.text = "for" ∧ headText? step.rest = some "(") &&
    !env.isType step.token.text && !env.catalog.isKeyword step.token.text

/-- The open declaration of which the step reads the next name. -/
def WalkStep.declarator? (env : Environment) (step : WalkStep) : Option OpenDeclaration :=
  if step.readsName env then step.before.decl.filter fun d => d.expectName && d.nest == 0 else none

/-- The declaration that the step makes, in the innermost scope. A name before a parenthesis is that
of a function, and a name before another name is that of a type. -/
def WalkStep.declaration? (env : Environment) (step : WalkStep) : Option Declaration :=
  (step.declarator? env).bind fun d =>
    if headText? step.rest = some "(" ∨ headIsName env.catalog step.rest = true then none
    else some ⟨step.before.scopes.currentIndex,
      { name := step.token.text
        line := step.code.number
        column := step.token.column
        path := step.code.path
        isParameter := d.isParameter }⟩

/-- The declarations that the walk over the code of a scrubbed source makes, in order. -/
def declarationLog (catalog : Catalog) (config : Config) (text : List Char) : List Declaration :=
  (walkTrace catalog config text).filterMap
    (WalkStep.declaration? (environmentOf catalog config text))

namespace Declaration

/-- Two declarations are of the same name in the same scope. -/
def isRival (d e : Declaration) : Bool :=
  d.scope == e.scope && d.declared.name == e.declared.name

/-- Whether two declarations stand in sibling branches. -/
def isSibling (d e : Declaration) : Bool :=
  inSiblingBranches d.declared.path e.declared.path

/-- The finding that a declaration repeats the first one of its name. -/
def redeclares (d first : Declaration) : Finding :=
  ⟨.variableRedeclared d.declared.name first.declared.line, d.declared.line, d.declared.column,
    d.declared.name.length⟩

/-- The finding about a declaration, after the declarations of a log. It is compared with the first
rival only. -/
def conflict? (log : List Declaration) (d : Declaration) : Option Finding :=
  (log.find? d.isRival).bind fun first =>
    if first.isSibling d then none else some (d.redeclares first)

/-- The findings about declarations, after those of a log. -/
def conflicts (log : List Declaration) : List Declaration → List Finding
  | [] => []
  | d :: rest => (conflict? log d).toList ++ conflicts (log ++ [d]) rest

/-- A conflict arises at one of the declarations, from those before it. -/
theorem mem_conflicts {log declarations : List Declaration} {f : Finding} :
    f ∈ conflicts log declarations ↔
      ∃ before d after, declarations = before ++ d :: after ∧
        conflict? (log ++ before) d = some f := by
  induction declarations generalizing log with
  | nil => simp [conflicts]
  | cons d rest ih =>
    simp only [conflicts, List.mem_append, Option.mem_toList, ih]
    constructor
    · rintro (hfirst | ⟨before, e, after, rfl, hlater⟩)
      · exact ⟨[], d, rest, rfl, by simpa using hfirst⟩
      · exact ⟨d :: before, e, after, rfl, by simpa using hlater⟩
    · rintro ⟨before, e, after, hsplit, hconflict⟩
      cases before with
      | nil =>
        obtain ⟨rfl, rfl⟩ := List.cons.inj hsplit
        exact Or.inl (by simpa using hconflict)
      | cons first before =>
        obtain ⟨rfl, rfl⟩ := List.cons.inj hsplit
        exact Or.inr ⟨before, e, after, rfl, by simpa using hconflict⟩

end Declaration

namespace ScopeStack

/-- Where a name was declared in a scope: the line, and the branches around it. -/
def remembered (s : ScopeStack) (index : Nat) (name : String) : Option (Int × List Branch) :=
  ((s.scopeAt index).find? name).map fun v => (v.line, v.path)

variable {s : ScopeStack}

/-- Nothing is remembered at first. -/
theorem remembered_initial (index : Nat) (name : String) :
    remembered {} index name = none := by
  cases index <;> rfl

/-- A new scope remembers nothing. -/
@[simp] theorem remembered_push (s : ScopeStack) (kind : ScopeKind) (line : Int)
    (headerDepth : Option Int) : (s.push kind line headerDepth).remembered = s.remembered := by
  funext index name
  unfold remembered scopeAt push
  rcases Nat.lt_trichotomy index s.arena.length with hlt | rfl | hgt
  · rw [List.getElem?_append_left hlt]
  · simp [Scope.find?, Scope.root]
  · rw [List.getElem?_eq_none (by simp; omega), List.getElem?_eq_none (by omega)]

/-- A change of a scope that keeps what it remembers. -/
theorem remembered_modifyAt (s : ScopeStack) (index : Nat) {f : Scope → Scope}
    (hf : ∀ scope name, ((f scope).find? name).map (fun v => (v.line, v.path)) =
      (scope.find? name).map fun v => (v.line, v.path)) :
    (s.modifyAt index f).remembered = s.remembered := by
  funext other name
  unfold remembered
  by_cases hother : index = other
  · subst hother
    by_cases hindex : index < s.arena.length
    · rw [scopeAt_modifyAt_self hindex, hf]
    · simp [modifyAt, scopeAt, hindex]
  · rw [scopeAt_modifyAt_ne s hother]

/-- A change of the innermost scope that keeps its variables changes nothing that is remembered. -/
theorem remembered_modifyCurrent (s : ScopeStack) {f : Scope → Scope}
    (hf : ∀ scope, (f scope).declared = scope.declared) :
    (s.modifyCurrent f).remembered = s.remembered :=
  remembered_modifyAt s s.currentIndex fun scope name => by simp only [Scope.find?, hf]

/-- A use of a name changes nothing that is remembered. -/
@[simp] theorem remembered_use (s : ScopeStack) (name : String) :
    (s.use name).remembered = s.remembered := by
  unfold use
  split
  · refine remembered_modifyAt s _ fun scope other => ?_
    simp only [Scope.markUsed, Scope.find?, List.find?_map, Option.map_map]
    have hname : ((fun v : Variable => v.name == other) ∘
        fun v => if v.name = name then { v with used := true } else v) =
          fun v => v.name == other := by
      funext v
      simp only [Function.comp_apply]
      split <;> rfl
    rw [hname]
    congr 1
    funext v
    simp only [Function.comp_apply]
    split <;> rfl
  · rfl

/-- Putting a variable of a new name adds it at the end. -/
theorem find?_putVariable {vars : List Variable} {v : Variable}
    (hnew : vars.find? (fun w => w.name == v.name) = none) (name : String) :
    (putVariable v vars).find? (fun w => w.name == name) =
      if name = v.name then some v else vars.find? fun w => w.name == name := by
  induction vars with
  | nil =>
    by_cases hname : name = v.name
    · simp [putVariable, hname]
    · have hother : v.name ≠ name := Ne.symm hname
      simp [putVariable, hname, hother]
  | cons w vars ih =>
    rw [List.find?_cons] at hnew
    split at hnew
    · cases hnew
    case h_2 hw =>
      have hne : w.name ≠ v.name := by simpa using hw
      rw [putVariable, if_neg hne, List.find?_cons, ih hnew, List.find?_cons]
      by_cases hname : name = v.name
      · subst hname
        simp [hw]
      · simp [hname]

/-- A new variable is remembered where it is declared, and everything else as before. -/
theorem remembered_declare (hs : s.WellFormed) {v : Variable}
    (hnew : s.current.find? v.name = none) (index : Nat) (name : String) :
    (s.declare v).remembered index name =
      if index = s.currentIndex ∧ name = v.name then some (v.line, v.path)
      else s.remembered index name := by
  have hmodify : s.declare v = s.modifyAt s.currentIndex (·.declare v) := rfl
  have hcurrent : s.currentIndex < s.arena.length := by
    cases hstack : s.stack with
    | nil => exact absurd hstack hs.stack_ne_nil
    | cons top rest =>
      have hindex : s.currentIndex = top := by simp [currentIndex, hstack]
      exact hindex ▸ hs.lt_length top (by simp [hstack])
  rw [hmodify, remembered, remembered]
  by_cases hindex : index = s.currentIndex
  · subst hindex
    have hfind : ((s.scopeAt s.currentIndex).declare v).find? name =
        if name = v.name then some v else (s.scopeAt s.currentIndex).find? name :=
      find?_putVariable hnew name
    rw [scopeAt_modifyAt_self hcurrent, hfind]
    by_cases hname : name = v.name
    · simp [hname]
    · simp [hname]
  · rw [scopeAt_modifyAt_ne s (Ne.symm hindex), if_neg fun h => hindex h.1]

end ScopeStack

/-- Whether a cause is the second declaration of a variable. -/
def Cause.isRedeclaration : Cause → Bool
  | .variableRedeclared _ _ => true
  | _ => false

namespace Walk

/-- The findings about second declarations of variables. -/
def redeclarations (w : Walk) : List Finding :=
  w.findings.filter (·.cause.isRedeclaration)

/-- Nothing is declared between two states of a walk, and no redeclaration is reported. -/
structure DeclaresNothing (w w' : Walk) : Prop where
  /-- The scopes remember the same declarations. -/
  remembered_eq : w'.scopes.remembered = w.scopes.remembered
  /-- The same redeclarations have been reported. -/
  redeclarations_eq : w'.redeclarations = w.redeclarations

variable {w w' : Walk}

/-- Nothing is declared when the scopes and the findings stay. -/
theorem DeclaresNothing.of_eq (hscopes : w'.scopes = w.scopes)
    (hfindings : w'.findings = w.findings) : DeclaresNothing w w' :=
  ⟨by rw [hscopes], by rw [redeclarations, hfindings, redeclarations]⟩

/-- Reporting something else declares nothing. -/
theorem redeclarations_report (w : Walk) {f : Finding} (hf : f.cause.isRedeclaration = false) :
    (w.report f).redeclarations = w.redeclarations := by
  simp [redeclarations, report, List.filter_append, hf]

/-- Punctuation declares nothing. -/
theorem declaresNothing_punct (w : Walk) (line : Nat) (text : String) :
    DeclaresNothing w (w.punct line text) := by
  have hmodify : ∀ f : Scope → Scope, (∀ scope, (f scope).declared = scope.declared) →
      (w.scopes.modifyCurrent f).remembered = w.scopes.remembered :=
    fun f hf => ScopeStack.remembered_modifyCurrent w.scopes hf
  have hblock : ∀ d, DeclaresNothing w (openBrace.openBlock line { w with decl := d }) := by
    intro d
    unfold openBrace.openBlock
    split
    · exact ⟨hmodify _ fun _ => rfl, rfl⟩
    · exact ⟨ScopeStack.remembered_push _ _ _ _, rfl⟩
  unfold punct
  split
  · unfold openParen
    split
    · exact ⟨ScopeStack.remembered_push _ _ _ _, rfl⟩
    · exact .of_eq rfl rfl
  split
  · refine ⟨hmodify _ fun scope => ?_, rfl⟩
    unfold closeHeader
    split <;> rfl
  split
  · exact .of_eq rfl rfl
  split
  · exact .of_eq rfl rfl
  split
  · unfold openBrace
    split
    · split
      · exact .of_eq rfl rfl
      · exact hblock none
    · exact hblock w.decl
  split
  · unfold closeBrace
    split
    · split
      · exact .of_eq rfl rfl
      · exact ⟨rfl, rfl⟩
    · exact ⟨rfl, rfl⟩
  split
  · exact ⟨rfl, rfl⟩
  split
  · exact .of_eq rfl rfl
  split
  · exact .of_eq rfl rfl
  · exact .of_eq rfl rfl

/-- An identifier outside declarations declares nothing. -/
theorem declaresNothing_reference (env : Environment) (w : Walk) (line : Nat)
    (prev : Option Token) (token : Token) (rest : List Token) :
    DeclaresNothing w (w.reference env line prev token rest) := by
  unfold reference
  split
  · unfold noteCall
    split <;> exact .of_eq rfl rfl
  split
  · exact .of_eq rfl rfl
  split
  · exact .of_eq rfl rfl
  · unfold resolve
    split
    · exact .of_eq rfl rfl
    split
    · exact ⟨ScopeStack.remembered_use _ _, rfl⟩
    split
    · exact .of_eq rfl rfl
    · exact ⟨rfl, redeclarations_report _ rfl⟩

/-- A tag declares nothing. -/
theorem declaresNothing_tag (w : Walk) (kind : ScopeKind) (rest : List Token) :
    DeclaresNothing w (w.tag kind rest) := by
  unfold tag
  split <;> exact .of_eq rfl rfl

end Walk

namespace WalkStep

variable {env : Environment} {step : WalkStep}

/-- The step reads a name of the open declaration, as a declarator. -/
theorem after_of_declarator? {d : OpenDeclaration} (h : step.declarator? env = some d) :
    step.after env = step.before.declarator env d step.code step.token step.rest := by
  unfold declarator? at h
  split at h
  case isFalse => cases h
  case isTrue hname =>
    obtain ⟨hdecl, hopen⟩ := Option.filter_eq_some_iff.mp h
    simp only [readsName, Bool.and_eq_true, Bool.not_eq_true', beq_iff_eq, bne_iff_ne,
      Option.isNone_iff_eq_none, decide_eq_false_iff_not] at hname
    obtain ⟨⟨⟨⟨⟨⟨⟨⟨⟨hkind, hasm⟩, hmember⟩, hword⟩, htag⟩, hqualifier⟩, hgoto⟩, hfor⟩, htype⟩,
      hkeyword⟩ := hname
    simp only [after, read, hkind, Walk.ident, hasm, hmember, hword, htag, hqualifier, hgoto, hfor,
      Walk.name, htype, hkeyword, hdecl, hopen, Bool.false_eq_true, if_false, if_true]

/-- A step that reads no name of a declaration declares nothing. -/
theorem declaresNothing_of_declarator? (h : step.declarator? env = none) :
    step.before.DeclaresNothing (step.after env) := by
  have hreference := Walk.declaresNothing_reference env step.before step.code.number step.prev
    step.token step.rest
  unfold after read
  split
  · exact Walk.declaresNothing_punct _ _ _
  · exact .of_eq rfl rfl
  case h_3 hkind =>
    unfold Walk.ident
    split
    · exact .of_eq rfl rfl
    case isFalse hasm =>
    split
    · exact .of_eq rfl rfl
    case isFalse hmember =>
    split
    · exact .of_eq rfl rfl
    case isFalse hword =>
    split
    · exact Walk.declaresNothing_tag _ _ _
    case h_2 htag =>
    split
    · exact .of_eq rfl rfl
    case isFalse hqualifier =>
    split
    · exact .of_eq rfl rfl
    case isFalse hgoto =>
    split
    · exact .of_eq rfl rfl
    case isFalse hfor =>
    dsimp only
    unfold Walk.name
    split
    · split <;> exact .of_eq rfl rfl
    case isFalse htype =>
    split
    · exact .of_eq rfl rfl
    case isFalse hkeyword =>
    -- What is left is a name that stands for itself, so the declaration does not expect it.
    have hname : step.readsName env = true := by
      simp only [Bool.not_eq_true] at hasm hmember hqualifier htype hkeyword
      simp only [readsName, hkind, hasm, hmember, bne_iff_ne.mpr hword, htag, hqualifier,
        bne_iff_ne.mpr hgoto, decide_eq_false hfor, htype, hkeyword, beq_self_eq_true,
        Option.isNone_none, Bool.not_false, Bool.and_self]
    split
    case h_1 d hdecl =>
      split
      case isTrue hopen =>
        rw [declarator?, if_pos hname, hdecl, Option.filter_some, if_pos hopen] at h
        cases h
      case isFalse => exact hreference
    case h_2 => exact hreference

/-- A step that makes no declaration declares nothing. -/
theorem declaresNothing (h : step.declaration? env = none) :
    step.before.DeclaresNothing (step.after env) := by
  cases hdeclarator : step.declarator? env with
  | none => exact declaresNothing_of_declarator? hdeclarator
  | some d =>
    simp only [declaration?, hdeclarator, Option.bind_some, ite_eq_left_iff, reduceCtorEq,
      imp_false, not_not] at h
    rw [after_of_declarator? hdeclarator, Walk.declarator]
    split
    · exact .of_eq rfl rfl
    case isFalse hparen =>
      rw [if_pos (h.resolve_left hparen)]
      exact .of_eq rfl rfl

/-- A step that makes a declaration compares it with what the innermost scope remembers. -/
theorem after_of_declaration? {d : Declaration} (h : step.declaration? env = some d) :
    d.scope = step.before.scopes.currentIndex ∧
      (step.after env).scopes = (step.before.declare env.catalog env.config d.declared).scopes ∧
      (step.after env).findings =
        (step.before.declare env.catalog env.config d.declared).findings := by
  obtain ⟨od, hdeclarator, hplain⟩ := Option.bind_eq_some_iff.mp h
  split at hplain
  · cases hplain
  case isFalse hnot =>
    obtain rfl := Option.some.inj hplain
    obtain ⟨hparen, hname⟩ := not_or.mp hnot
    rw [after_of_declarator? hdeclarator, Walk.declarator, if_neg hparen, if_neg hname]
    exact ⟨rfl, rfl, rfl⟩

end WalkStep

/-- The scopes of a walk remember, of every name in every scope, the first declaration of a log. -/
def Walk.Remembers (w : Walk) (log : List Declaration) : Prop :=
  ∀ index name, w.scopes.remembered index name =
    (log.find? fun d => d.scope == index && d.declared.name == name).map fun d =>
      (d.declared.line, d.declared.path)

/-- A walk that starts remembers nothing. -/
theorem Walk.remembers_initial : Walk.Remembers {} [] :=
  fun index name => ScopeStack.remembered_initial index name

variable {env : Environment} {w w' : Walk} {step : WalkStep} {steps : List WalkStep}
  {log : List Declaration} {d : Declaration}

/-- What the innermost scope knows of the name of a declaration is its first rival. -/
theorem Walk.Remembers.find?_eq (hw : w.Remembers log) (hscope : d.scope = w.scopes.currentIndex) :
    (w.scopes.current.find? d.declared.name).map (fun v => (v.line, v.path)) =
      (log.find? d.isRival).map fun first => (first.declared.line, first.declared.path) := by
  have hrival : d.isRival = fun e => e.scope == w.scopes.currentIndex &&
      e.declared.name == d.declared.name := by
    funext e
    simp only [Declaration.isRival, hscope, BEq.comm]
  rw [hrival]
  exact hw w.scopes.currentIndex d.declared.name

/-- A declaration that is remembered already changes nothing. -/
theorem Walk.Remembers.append_of_some (hw : w.Remembers log) {first : Declaration}
    (hfirst : log.find? d.isRival = some first) : w.Remembers (log ++ [d]) := by
  intro index name
  rw [hw index name, List.find?_append]
  by_cases hkey : d.scope = index ∧ d.declared.name = name
  · obtain ⟨rfl, rfl⟩ := hkey
    have hrival : (fun e : Declaration => e.scope == d.scope &&
        e.declared.name == d.declared.name) = d.isRival := by
      funext e
      simp only [Declaration.isRival, BEq.comm]
    rw [hrival, hfirst, Option.some_or]
  · have hother : [d].find? (fun e => e.scope == index && e.declared.name == name) = none := by
      simpa using hkey
    rw [hother, Option.or_none]

/-- A declaration of a new name is remembered. -/
theorem Walk.Remembers.append_of_none (hw : w.Remembers log) (hground : w.scopes.WellFormed)
    (hscope : d.scope = w.scopes.currentIndex)
    (hnew : w.scopes.current.find? d.declared.name = none)
    (hscopes : w'.scopes = w.scopes.declare d.declared) : w'.Remembers (log ++ [d]) := by
  intro index name
  rw [hscopes, ScopeStack.remembered_declare hground hnew, hw index name, List.find?_append]
  by_cases hkey : index = w.scopes.currentIndex ∧ name = d.declared.name
  · obtain ⟨rfl, rfl⟩ := hkey
    have hbefore := hw w.scopes.currentIndex d.declared.name
    rw [ScopeStack.remembered, show w.scopes.scopeAt w.scopes.currentIndex = w.scopes.current from
      rfl, hnew, Option.map_none, eq_comm, Option.map_eq_none_iff] at hbefore
    simp [hbefore, hscope]
  · have hother : [d].find? (fun e => e.scope == index && e.declared.name == name) = none := by
      have hkey' : ¬(d.scope = index ∧ d.declared.name = name) := by
        rintro ⟨rfl, rfl⟩
        exact hkey ⟨hscope, rfl⟩
      simpa using hkey'
    rw [if_neg hkey, hother, Option.or_none]

/-- A step that makes a declaration lets the scopes remember it, and reports the conflict that it
has with the first rival. -/
theorem WalkStep.remembers_of_declaration? (hstep : step.declaration? env = some d)
    (hw : step.before.Remembers log) (hground : step.before.scopes.WellFormed) :
    (step.after env).Remembers (log ++ [d]) ∧
      (step.after env).redeclarations =
        step.before.redeclarations ++ (d.conflict? log).toList := by
  obtain ⟨hscope, hscopes, hfindings⟩ := after_of_declaration? hstep
  have hfind := hw.find?_eq hscope
  unfold Walk.declare at hscopes hfindings
  cases hexisting : step.before.scopes.current.find? d.declared.name with
  | some existing =>
    rw [hexisting, Option.map_some] at hfind
    obtain ⟨first, hfirst, hsame⟩ := Option.map_eq_some_iff.mp hfind.symm
    obtain ⟨hline, hpath⟩ := Prod.mk.inj hsame
    simp only [hexisting] at hscopes hfindings
    have hremembers : (step.after env).Remembers (log ++ [d]) := by
      have hsame : (step.after env).scopes = step.before.scopes := by
        rw [hscopes]
        split <;> rfl
      intro index name
      rw [hsame]
      exact hw.append_of_some hfirst index name
    refine ⟨hremembers, ?_⟩
    by_cases hsiblings : inSiblingBranches existing.path d.declared.path = true
    · have hconflict : d.conflict? log = none := by
        simp [Declaration.conflict?, hfirst, Declaration.isSibling, hpath, hsiblings]
      rw [if_pos hsiblings] at hfindings
      simp [Walk.redeclarations, hfindings, hconflict]
    · have hconflict : d.conflict? log = some (d.redeclares first) := by
        simp [Declaration.conflict?, hfirst, Declaration.isSibling, hpath, hsiblings]
      rw [if_neg hsiblings] at hfindings
      rw [hconflict, Walk.redeclarations, hfindings, ← hline]
      simp [Walk.report, Walk.redeclarations, Declaration.redeclares, Cause.isRedeclaration]
  | none =>
    rw [hexisting, Option.map_none, eq_comm, Option.map_eq_none_iff] at hfind
    simp only [hexisting] at hscopes hfindings
    have hconflict : d.conflict? log = none := by simp [Declaration.conflict?, hfind]
    rw [hconflict]
    refine ⟨hw.append_of_none hground hscope hexisting ?_, ?_⟩
    · rw [hscopes]
      cases Walk.shadowing? env.catalog env.config d.declared <;> rfl
    · rw [Option.toList_none, List.append_nil, Walk.redeclarations, hfindings]
      rcases Walk.shadowing?_cases env.catalog env.config d.declared with
        hnone | ⟨cause, rfl | rfl, hsome⟩
      · rw [hnone]
        rfl
      · rw [hsome]
        exact Walk.redeclarations_report _ rfl
      · rw [hsome]
        exact Walk.redeclarations_report _ rfl

/-- The redeclarations that some steps report are the conflicts of the declarations that they
make. -/
theorem redeclarations_of_isRun (hrun : IsRun env w steps w') (hw : w.Remembers log)
    (hground : w.scopes.Grounded) :
    w'.redeclarations = w.redeclarations ++
      Declaration.conflicts log (steps.filterMap (WalkStep.declaration? env)) := by
  induction steps generalizing w log with
  | nil =>
    obtain rfl : w = w' := hrun
    simp [Declaration.conflicts]
  | cons step steps ih =>
    obtain ⟨rfl, hrun⟩ := hrun
    have hafter := step.grounded_after env hground
    cases hstep : step.declaration? env with
    | none =>
      obtain ⟨hremembered, hsame⟩ := WalkStep.declaresNothing hstep
      have hkept : (step.after env).Remembers log := by
        intro index name
        rw [hremembered]
        exact hw index name
      rw [List.filterMap_cons_none hstep, ih hrun hkept hafter, hsame]
    | some d =>
      obtain ⟨hremembers, hreported⟩ :=
        WalkStep.remembers_of_declaration? hstep hw hground.toWellFormed
      rw [List.filterMap_cons_some hstep, ih hrun hremembers hafter, hreported,
        Declaration.conflicts, List.append_assoc]

/-- The redeclarations that the walk over a source reports are the conflicts of its log. -/
theorem redeclarations_eq_conflicts (catalog : Catalog) (config : Config) (text : List Char) :
    (checkDeclarations catalog config text).walk.redeclarations =
      Declaration.conflicts [] (declarationLog catalog config text) := by
  have hrun := isRun_walkTrace catalog config text
  have hall := redeclarations_of_isRun hrun Walk.remembers_initial ScopeStack.grounded_initial
  simpa [Walk.redeclarations, declarationLog] using hall

end BrickLint
