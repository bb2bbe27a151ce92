import BrickLint.Proofs.Anchor.Name
import BrickLint.Proofs.DeclarationReport

/-!
# Names that the walk carries

The walk keeps variables in its scopes and calls in a table, each with the place of its name. Every
token leaves all of them, and all findings, at names of the source: punctuation opens and closes
scopes and declares nothing, and an identifier is kept with its own place.
-/

namespace BrickLint

open Text

namespace ScopeStack

/-- Every variable of every scope, open or closed, has a property. -/
def AllVariables (P : Variable → Prop) (s : ScopeStack) : Prop :=
  ∀ scope ∈ s.arena, ∀ v ∈ scope.declared, P v

variable {P : Variable → Prop} {s : ScopeStack}

/-- A new scope stack has no variables. -/
theorem allVariables_initial : AllVariables P {} := by
  simp [AllVariables, Scope.root]

/-- A new scope has no variables. -/
theorem AllVariables.push (h : s.AllVariables P) (kind : ScopeKind) (line : Int)
    (headerDepth : Option Int) : (s.push kind line headerDepth).AllVariables P := by
  intro scope hscope v hv
  rcases List.mem_append.mp hscope with hbefore | hnew
  · exact h scope hbefore v hv
  · obtain rfl := List.mem_singleton.mp hnew
    simp at hv

/-- A change of one scope keeps a property of the variables if it keeps it in every scope. -/
theorem AllVariables.modify (h : s.AllVariables P) (index : Nat) {f : Scope → Scope}
    (hf : ∀ scope ∈ s.arena, ∀ v ∈ (f scope).declared, P v) :
    AllVariables P { s with arena := s.arena.modify index f } := by
  intro scope hscope v hv
  obtain ⟨i, hi⟩ := List.mem_iff_getElem?.mp hscope
  rw [List.getElem?_modify] at hi
  obtain ⟨old, hold, hchange⟩ := Option.map_eq_some_iff.mp hi
  have hmem := List.mem_of_getElem? hold
  split at hchange
  · exact hf old hmem v (hchange ▸ hv)
  · exact h old hmem v (hchange ▸ hv)

/-- A variable that is put in a scope is there, and the others were there before. -/
theorem mem_putVariable {u v : Variable} {vars : List Variable} (h : u ∈ putVariable v vars) :
    u = v ∨ u ∈ vars := by
  induction vars with
  | nil => simpa [putVariable] using h
  | cons w vars ih =>
    unfold putVariable at h
    split at h
    · rcases List.mem_cons.mp h with hnew | hold
      · exact Or.inl hnew
      · exact Or.inr (List.mem_cons_of_mem w hold)
    · rcases List.mem_cons.mp h with rfl | hold
      · exact Or.inr List.mem_cons_self
      · exact (ih hold).imp_right (List.mem_cons_of_mem w)

/-- Declaring a variable with the property keeps the property. -/
theorem AllVariables.declare (h : s.AllVariables P) {v : Variable} (hv : P v) :
    (s.declare v).AllVariables P := by
  refine h.modify s.currentIndex fun scope hscope u hu => ?_
  rcases mem_putVariable hu with rfl | hold
  · exact hv
  · exact h scope hscope u hold

/-- Using a name keeps a property that does not depend on whether a variable is used. -/
theorem AllVariables.use (h : s.AllVariables P) (hP : ∀ v, P v → P { v with used := true })
    (name : String) : (s.use name).AllVariables P := by
  unfold ScopeStack.use
  split
  · refine h.modify _ fun scope hscope u hu => ?_
    obtain ⟨v, hv, rfl⟩ := List.mem_map.mp hu
    have hold := h scope hscope v hv
    split
    · exact hP v hold
    · exact hold
  · exact h

end ScopeStack

/-- The name of a variable stands where the variable says. -/
def Variable.StandsIn (lines : List (List Char)) (v : Variable) : Prop :=
  ∃ line column : Nat, v.line = line ∧ v.column = column ∧ NameAt lines v.name line column

namespace Walk

/-- All names that a walk carries stand in the lines of the source. -/
structure IsAnchored (lines : List (List Char)) (w : Walk) : Prop where
  /-- Variables stand where they were declared. -/
  declared : w.scopes.AllVariables (·.StandsIn lines)
  /-- Calls stand where they were noted. -/
  calls : ∀ call ∈ w.calls, NameAt lines call.name call.line call.column
  /-- Findings are about names. -/
  findings : ∀ f ∈ w.findings, f.IsNamed lines

variable {lines : List (List Char)} {w : Walk}

/-- A walk that starts carries no names. -/
theorem isAnchored_initial : IsAnchored lines {} :=
  ⟨ScopeStack.allVariables_initial, by simp, by simp⟩

/-- A finding about a name may be added. -/
theorem IsAnchored.report (h : w.IsAnchored lines) {f : Finding} (hf : f.IsNamed lines) :
    (w.report f).IsAnchored lines := by
  refine ⟨h.declared, h.calls, fun g hg => ?_⟩
  rcases List.mem_append.mp hg with hbefore | hnew
  · exact h.findings g hbefore
  · exact List.mem_singleton.mp hnew ▸ hf

/-- A change of the innermost scope that keeps its variables keeps the invariant. -/
theorem IsAnchored.modifyCurrent (h : w.IsAnchored lines) {f : Scope → Scope}
    (hf : ∀ scope, (f scope).declared = scope.declared) :
    (w.scopes.modifyCurrent f).AllVariables (·.StandsIn lines) := by
  refine h.declared.modify _ fun scope hscope v hv => ?_
  rw [hf] at hv
  exact h.declared scope hscope v hv

/-- An opening parenthesis keeps the invariant. -/
theorem IsAnchored.openParen (h : w.IsAnchored lines) (line : Nat) :
    (w.openParen line).IsAnchored lines := by
  unfold Walk.openParen
  split
  · exact ⟨h.declared.push _ _ _, h.calls, h.findings⟩
  · exact ⟨h.declared, h.calls, h.findings⟩

/-- A closing parenthesis keeps the invariant. -/
theorem IsAnchored.closeParen (h : w.IsAnchored lines) : w.closeParen.IsAnchored lines := by
  refine ⟨h.modifyCurrent fun scope => ?_, h.calls, h.findings⟩
  unfold closeHeader
  split <;> rfl

/-- A block that is opened keeps the invariant. -/
theorem IsAnchored.openBlock (h : w.IsAnchored lines) (line : Nat) :
    (openBrace.openBlock line w).IsAnchored lines := by
  unfold openBrace.openBlock
  split
  · exact ⟨h.modifyCurrent fun _ => rfl, h.calls, h.findings⟩
  · exact ⟨h.declared.push _ _ _, h.calls, h.findings⟩

/-- An opening brace keeps the invariant. -/
theorem IsAnchored.openBrace (h : w.IsAnchored lines) (line : Nat) :
    (w.openBrace line).IsAnchored lines := by
  unfold Walk.openBrace
  split
  · split
    · exact ⟨h.declared, h.calls, h.findings⟩
    · have hclosed : IsAnchored lines { w with decl := none } :=
        ⟨h.declared, h.calls, h.findings⟩
      exact hclosed.openBlock line
  · exact h.openBlock line

/-- A closing brace keeps the invariant. -/
theorem IsAnchored.closeBrace (h : w.IsAnchored lines) : w.closeBrace.IsAnchored lines := by
  have hblock : w.closeBlock.IsAnchored lines := ⟨h.declared, h.calls, h.findings⟩
  unfold Walk.closeBrace
  split
  · split
    · exact ⟨h.declared, h.calls, h.findings⟩
    · exact hblock
  · exact hblock

/-- Punctuation keeps the invariant. -/
theorem IsAnchored.punct (h : w.IsAnchored lines) (line : Nat) (text : String) :
    (w.punct line text).IsAnchored lines := by
  unfold Walk.punct
  split
  · exact h.openParen line
  split
  · exact h.closeParen
  split
  · exact ⟨h.declared, h.calls, h.findings⟩
  split
  · exact ⟨h.declared, h.calls, h.findings⟩
  split
  · exact h.openBrace line
  split
  · exact h.closeBrace
  split
  · exact ⟨h.declared, h.calls, h.findings⟩
  split
  · exact ⟨h.declared, h.calls, h.findings⟩
  split
  · exact ⟨h.declared, h.calls, h.findings⟩
  · exact h

/-- A declaration keeps the invariant. -/
theorem IsAnchored.declare (h : w.IsAnchored lines) (catalog : Catalog) (config : Config)
    {v : Variable} {line column : Nat} (hline : v.line = line) (hcolumn : v.column = column)
    (hname : NameAt lines v.name line column) : (w.declare catalog config v).IsAnchored lines := by
  have hnamed : ∀ cause : Cause, cause.name? = some v.name →
      Finding.IsNamed lines ⟨cause, v.line, v.column, v.name.length⟩ := by
    intro cause hcause
    exact ⟨cause, v.name, line, column, by rw [hline, hcolumn], hcause, hname⟩
  unfold Walk.declare
  split
  · split
    · exact h
    · exact h.report (hnamed _ rfl)
  · have hdeclared : IsAnchored lines { w with scopes := w.scopes.declare v } :=
      ⟨h.declared.declare ⟨line, column, hline, hcolumn, hname⟩, h.calls, h.findings⟩
    dsimp only
    rcases shadowing?_cases catalog config v with hnone | ⟨cause, rfl | rfl, hsome⟩
    · rw [hnone]
      exact hdeclared
    · rw [hsome]
      exact hdeclared.report (hnamed _ rfl)
    · rw [hsome]
      exact hdeclared.report (hnamed _ rfl)

/-- A use of a name keeps the invariant. -/
theorem IsAnchored.resolve (h : w.IsAnchored lines) (env : Environment) {line : Nat}
    {token : Token} (htoken : NameAt lines token.text line token.column) :
    (w.resolve env line token).IsAnchored lines := by
  unfold Walk.resolve
  split
  · exact h
  split
  · refine ⟨h.declared.use (fun v hv => ?_) token.text, h.calls, h.findings⟩
    obtain ⟨n, c, hline, hcolumn, hname⟩ := hv
    exact ⟨n, c, hline, hcolumn, hname⟩
  split
  · exact h
  · exact h.report ⟨_, token.text, line, token.column, rfl, rfl, htoken⟩

/-- A call keeps the invariant. -/
theorem IsAnchored.noteCall (h : w.IsAnchored lines) {line : Nat} {token : Token}
    (htoken : NameAt lines token.text line token.column) :
    (w.noteCall line token).IsAnchored lines := by
  unfold Walk.noteCall
  split
  · exact h
  · refine ⟨h.declared, fun call hcall => ?_, h.findings⟩
    rcases List.mem_append.mp hcall with hbefore | hnew
    · exact h.calls call hbefore
    · obtain rfl := List.mem_singleton.mp hnew
      exact htoken

variable {env : Environment} {code : CodeLine} {prev : Option Token} {token : Token}
  {rest : List Token}

/-- A declarator keeps the invariant. -/
theorem IsAnchored.declarator (h : w.IsAnchored lines)
    (htoken : NameAt lines token.text code.number token.column) (d : OpenDeclaration) :
    (w.declarator env d code token rest).IsAnchored lines := by
  unfold Walk.declarator
  split
  · exact ⟨h.declared, h.calls, h.findings⟩
  split
  · exact h
  · have hdeclared := h.declare (v := ⟨token.text, code.number, token.column, code.path,
      d.isParameter, false⟩) env.catalog env.config rfl rfl htoken
    exact ⟨hdeclared.declared, hdeclared.calls, hdeclared.findings⟩

/-- An identifier outside declarations keeps the invariant. -/
theorem IsAnchored.reference (h : w.IsAnchored lines)
    (htoken : NameAt lines token.text code.number token.column) :
    (w.reference env code.number prev token rest).IsAnchored lines := by
  unfold Walk.reference
  split
  · exact h.noteCall htoken
  split
  · exact ⟨h.declared, h.calls, h.findings⟩
  split
  · exact h
  · exact h.resolve env htoken

/-- An identifier that is neither a tag nor a qualifier keeps the invariant. -/
theorem IsAnchored.name (h : w.IsAnchored lines)
    (htoken : NameAt lines token.text code.number token.column) :
    (w.name env code prev token rest).IsAnchored lines := by
  unfold Walk.name
  split
  · split
    · exact h
    · exact ⟨h.declared, h.calls, h.findings⟩
  split
  · exact h
  split
  · split
    · exact h.declarator htoken _
    · exact h.reference htoken
  · exact h.reference htoken

/-- A tag keeps the invariant. -/
theorem IsAnchored.tag (h : w.IsAnchored lines) (kind : ScopeKind) :
    (w.tag kind rest).IsAnchored lines := by
  unfold Walk.tag
  split <;> exact ⟨h.declared, h.calls, h.findings⟩

/-- An identifier keeps the invariant. -/
theorem IsAnchored.ident (h : w.IsAnchored lines) (env : Environment) (prev : Option Token)
    (rest : List Token) (htoken : NameAt lines token.text code.number token.column) :
    (w.ident env code prev token rest).1.IsAnchored lines := by
  unfold Walk.ident
  split
  · exact h
  split
  · exact h
  split
  · exact ⟨h.declared, h.calls, h.findings⟩
  split
  · exact h.tag _
  split
  · exact h
  split
  · exact h
  split
  · exact ⟨h.declared, h.calls, h.findings⟩
  · exact h.name htoken

/-- The tokens of a line keep the invariant when their identifiers stand in the line. -/
theorem IsAnchored.tokens (h : w.IsAnchored lines) {tokens : List Token}
    (htokens : ∀ token ∈ tokens, token.kind = .ident →
      NameAt lines token.text code.number token.column) :
    (w.tokens env code prev tokens).IsAnchored lines := by
  fun_induction Walk.tokens env code prev w tokens with
  | case1 => exact h
  | case2 prev w token rest hkind ih =>
    obtain ⟨_, hrest⟩ := List.forall_mem_cons.mp htokens
    exact ih (h.punct code.number token.text) hrest
  | case3 prev w token rest hkind ih =>
    obtain ⟨_, hrest⟩ := List.forall_mem_cons.mp htokens
    exact ih h hrest
  | case4 prev w token hkind after next rest hident ih =>
    obtain ⟨htoken, hrest⟩ := List.forall_mem_cons.mp htokens
    have hafter := h.ident env prev (next :: rest) (htoken hkind)
    rw [hident] at hafter
    exact ih hafter (List.forall_mem_cons.mp hrest).2
  | case5 prev w token hkind after hident =>
    obtain ⟨htoken, _⟩ := List.forall_mem_cons.mp htokens
    have hafter := h.ident env prev [] (htoken hkind)
    rw [hident] at hafter
    exact hafter
  | case6 prev w token hkind after rest hident ih =>
    obtain ⟨htoken, hrest⟩ := List.forall_mem_cons.mp htokens
    have hafter := h.ident env prev rest (htoken hkind)
    rw [hident] at hafter
    exact ih hafter hrest

/-- A line of code keeps the invariant. -/
theorem IsAnchored.line (h : w.IsAnchored lines)
    (hcode : lines[code.number]? = some code.text) : (w.line env code).IsAnchored lines := by
  refine h.tokens fun token htoken hkind => ?_
  obtain ⟨hname, hprefix⟩ := prefix_of_mem_tokenize htoken hkind
  exact ⟨hname, code.text, hcode, hprefix⟩

end Walk

/-- The names that a walk over the code of a source carries stand in the source. -/
theorem isAnchored_walkCode {lines : List (List Char)} (env : Environment) {code : List CodeLine}
    (hcode : ∀ line ∈ code, lines[line.number]? = some line.text) :
    (walkCode env code).IsAnchored lines := by
  suffices hrun : ∀ w : Walk, w.IsAnchored lines →
      (code.foldl (Walk.line env) w).IsAnchored lines by
    exact hrun {} Walk.isAnchored_initial
  induction code with
  | nil => exact fun _ hw => hw
  | cons line code ih =>
    obtain ⟨hline, hcode⟩ := List.forall_mem_cons.mp hcode
    exact fun w hw => ih hcode _ (hw.line hline)

/-- A variable of a scope that is never used is a variable of the scope. -/
theorem mem_declared_of_mem_unusedVariables {scope : Scope} {v : Variable}
    (h : v ∈ unusedVariables scope) : v ∈ scope.declared := by
  unfold unusedVariables at h
  split at h
  · simp at h
  · exact (List.mem_filter.mp h).1

/-- Every finding about declarations is about an initializer, or about a name that stands where the
finding says. -/
theorem isNamed_of_mem_checkDeclarations {catalog : Catalog} {config : Config} {text : List Char}
    {f : Finding} (h : f ∈ (checkDeclarations catalog config text).findings) :
    f ∈ initializerFindings Position.start text ∨ f.IsNamed (codeRows text) := by
  have hcode : ∀ line ∈ (layout (codeRows text)).code,
      (codeRows text)[line.number]? = some line.text := fun line hline => text_of_mem_layout hline
  have hwalk : (checkDeclarations catalog config text).walk.IsAnchored (codeRows text) :=
    isAnchored_walkCode _ hcode
  cases origin_of_mem_checkDeclarations h with
  | function hfunction => exact Or.inr (isNamed_of_mem_collectFunctions hcode hfunction)
  | walk hfound => exact Or.inr (hwalk.findings f hfound)
  | call call best hcall _ hf =>
    exact Or.inr ⟨_, call.name, call.line, call.column, hf, rfl, hwalk.calls call hcall⟩
  | initializer hinitializer => exact Or.inl hinitializer
  | unused v hv hf =>
    obtain ⟨scope, hscope, hv⟩ := List.mem_flatMap.mp hv
    have hdeclared := mem_declared_of_mem_unusedVariables hv
    obtain ⟨line, column, hline, hcolumn, hname⟩ := hwalk.declared scope hscope v hdeclared
    refine Or.inr ⟨.unusedVariable v.name, v.name, line, column, ?_, rfl, hname⟩
    rw [hf, unusedFinding, hline, hcolumn]

end BrickLint
