import BrickLint.Proofs.BraceScope.Runs
import BrickLint.Proofs.ScopeArena

/-!
# Header scopes that wait for a brace

A scope that waits for a brace is the header of a function or of a counting loop, and the global
scope never waits. Every token keeps it so: identifiers declare and use variables and announce
headers, a parenthesis opens the header that is announced, and a brace is bound to a header only
when the parentheses of the header are closed.
-/

namespace BrickLint

open Text

/-- How the scope at a place of the arena may wait: the global scope does not, a header that is open
does, and only headers do. -/
structure Scope.WaitsAsHeader (place : Nat) (scope : Scope) : Prop where
  /-- The scope at the start of the arena is the global one, which is no header. -/
  global : place = 0 →
    scope.kind = .global ∧ scope.awaitingBrace = false ∧ scope.headerOpen = false
  /-- A scope whose parentheses are open waits for a brace. -/
  awaiting : scope.headerOpen = true → scope.awaitingBrace = true
  /-- A scope that waits is the header of a function or of a counting loop. -/
  header : scope.awaitingBrace = true → scope.kind = .function ∨ scope.kind = .forLoop

namespace ScopeStack

/-- All scopes of the arena wait as headers do, and there is a global one. -/
structure WaitsForBraces (s : ScopeStack) : Prop where
  /-- There is a scope at the start of the arena. -/
  arena_pos : 0 < s.arena.length
  /-- Every scope waits as a header does. -/
  waits : ∀ (i : Nat) (scope : Scope), s.arena[i]? = some scope → scope.WaitsAsHeader i

variable {s : ScopeStack}

/-- In a new scope stack nothing waits. -/
theorem waitsForBraces_initial : WaitsForBraces {} where
  arena_pos := by simp
  waits := by
    intro i scope h
    obtain ⟨hi, rfl⟩ := List.getElem?_eq_some_iff.mp h
    obtain rfl : i = 0 := by simpa using hi
    exact ⟨fun _ => ⟨rfl, rfl, rfl⟩, fun h => h, fun h => by cases h⟩

/-- What waits depends on the arena only. -/
theorem WaitsForBraces.of_arena_eq {t : ScopeStack} (hs : s.WaitsForBraces)
    (h : t.arena = s.arena) : t.WaitsForBraces :=
  ⟨h ▸ hs.arena_pos, fun i scope hscope => hs.waits i scope (h ▸ hscope)⟩

/-- A header scope that is opened waits, and other scopes that are opened do not. -/
theorem WaitsForBraces.push (hs : s.WaitsForBraces) {kind : ScopeKind} {headerDepth : Option Int}
    (hkind : headerDepth.isSome = true → kind = .function ∨ kind = .forLoop) (line : Int) :
    (s.push kind line headerDepth).WaitsForBraces where
  arena_pos := by simp [ScopeStack.push]
  waits := by
    intro i scope h
    rcases getElem?_enter h with h | ⟨rfl, rfl⟩
    · exact hs.waits i scope h
    · have hplace := hs.arena_pos
      exact ⟨fun h => absurd h (by omega), id, hkind⟩

/-- A change of one scope that keeps it waiting as a header does. -/
theorem WaitsForBraces.modifyAt (hs : s.WaitsForBraces) {f : Scope → Scope} {index : Nat}
    (hf : ∀ scope, s.arena[index]? = some scope → scope.WaitsAsHeader index →
      (f scope).WaitsAsHeader index) :
    (s.modifyAt index f).WaitsForBraces where
  arena_pos := by simpa [ScopeStack.modifyAt] using hs.arena_pos
  waits := by
    intro i scope h
    obtain ⟨old, hold, rfl⟩ := getElem?_modifyAt h
    have hwaits := hs.waits i old hold
    split
    case isTrue hplace => exact hplace ▸ hf old (hplace ▸ hold) (hplace ▸ hwaits)
    case isFalse => exact hwaits

/-- A change of the variables of a scope does not concern its waiting. -/
theorem WaitsForBraces.modifyVariables (hs : s.WaitsForBraces) {f : Scope → Scope}
    (hf : ChangesVariables f) (index : Nat) : (s.modifyAt index f).WaitsForBraces := by
  refine hs.modifyAt fun scope _ hscope => ?_
  have hrest := hf.rest_eq scope
  have hkind : (f scope).kind = scope.kind := (congrArg Scope.kind hrest :)
  have hawaiting : (f scope).awaitingBrace = scope.awaitingBrace :=
    (congrArg Scope.awaitingBrace hrest :)
  have hopen : (f scope).headerOpen = scope.headerOpen := (congrArg Scope.headerOpen hrest :)
  exact ⟨by simpa only [hkind, hawaiting, hopen] using hscope.global,
    by simpa only [hawaiting, hopen] using hscope.awaiting,
    by simpa only [hkind, hawaiting] using hscope.header⟩

/-- Declaring a variable does not concern the waiting. -/
theorem WaitsForBraces.declare (hs : s.WaitsForBraces) (v : Variable) :
    (s.declare v).WaitsForBraces :=
  hs.modifyVariables (changesVariables_declare v) _

/-- Using a name does not concern the waiting. -/
theorem WaitsForBraces.use (hs : s.WaitsForBraces) (name : String) :
    (s.use name).WaitsForBraces := by
  unfold ScopeStack.use
  split
  · exact hs.modifyVariables (changesVariables_markUsed name) _
  · exact hs

/-- Closing the parentheses of the innermost header keeps it waiting. -/
theorem WaitsForBraces.closeHeader (hs : s.WaitsForBraces) (parens : Nat) :
    (s.modifyCurrent (Walk.closeHeader parens)).WaitsForBraces := by
  refine hs.modifyAt fun scope _ hscope => ?_
  unfold Walk.closeHeader
  split
  · exact ⟨fun hplace => ⟨(hscope.global hplace).1, (hscope.global hplace).2.1, rfl⟩,
      fun h => Bool.noConfusion h, hscope.header⟩
  · exact hscope

/-- A brace is bound to a header whose parentheses are closed. -/
theorem WaitsForBraces.bindBrace (hs : s.WaitsForBraces)
    (hclosed : s.current.headerOpen = false) : s.bindBrace.WaitsForBraces := by
  refine hs.modifyAt fun scope hplace hscope => ?_
  have hcurrent : s.current = scope := scopeAt_of_getElem? hplace
  rw [hcurrent] at hclosed
  exact ⟨fun hplace => ⟨(hscope.global hplace).1, rfl, hclosed⟩,
    fun h => absurd (h.symm.trans hclosed) (by decide), fun h => Bool.noConfusion h⟩

end ScopeStack

namespace Walk

/-- What an identifier does to parentheses, scopes and headers: at most it declares or uses a
variable, or announces the header of a function or of a counting loop. -/
structure ReadsIdent (w w' : Walk) : Prop where
  /-- The same parentheses are open. -/
  parens_eq : w'.parens = w.parens
  /-- A variable may be declared or used. -/
  scopes : w'.scopes = w.scopes ∨ (∃ v, w'.scopes = w.scopes.declare v) ∨
    ∃ name, w'.scopes = w.scopes.use name
  /-- A header may be announced. -/
  header : w'.pendingHeader = w.pendingHeader ∨ w'.pendingHeader = some .function ∨
    w'.pendingHeader = some .forLoop

variable {w w' : Walk}

/-- Nothing happens to parentheses, scopes and headers. -/
theorem ReadsIdent.of_eq (hparens : w'.parens = w.parens) (hscopes : w'.scopes = w.scopes)
    (hheader : w'.pendingHeader = w.pendingHeader) : w.ReadsIdent w' :=
  ⟨hparens, Or.inl hscopes, Or.inl hheader⟩

/-- A declaration declares at most a variable. -/
theorem readsIdent_declare (catalog : Catalog) (config : Config) (w : Walk) (v : Variable) :
    w.ReadsIdent (w.declare catalog config v) := by
  have hdeclared : ∀ findings : List Finding,
      w.ReadsIdent { w with scopes := w.scopes.declare v, findings := findings } :=
    fun _ => ⟨rfl, Or.inr (Or.inl ⟨v, rfl⟩), Or.inl rfl⟩
  unfold declare
  split
  · split <;> exact .of_eq rfl rfl rfl
  · dsimp only
    cases shadowing? catalog config v <;> exact hdeclared _

/-- A reference uses at most a variable. -/
theorem readsIdent_reference (env : Environment) (w : Walk) (line : Nat) (prev : Option Token)
    (token : Token) (rest : List Token) : w.ReadsIdent (w.reference env line prev token rest) := by
  unfold reference
  split
  · unfold noteCall
    split <;> exact .of_eq rfl rfl rfl
  split
  · exact .of_eq rfl rfl rfl
  split
  · exact .of_eq rfl rfl rfl
  · unfold resolve
    split
    · exact .of_eq rfl rfl rfl
    split
    · exact ⟨rfl, Or.inr (Or.inr ⟨_, rfl⟩), Or.inl rfl⟩
    split <;> exact .of_eq rfl rfl rfl

/-- The next name of a declaration announces a function, or declares at most a variable. -/
theorem readsIdent_declarator (env : Environment) (w : Walk) (d : OpenDeclaration)
    (code : CodeLine) (token : Token) (rest : List Token) :
    w.ReadsIdent (w.declarator env d code token rest) := by
  unfold declarator
  split
  · exact ⟨rfl, Or.inl rfl, Or.inr (Or.inl rfl)⟩
  split
  · exact .of_eq rfl rfl rfl
  · obtain ⟨hparens, hscopes, hheader⟩ := readsIdent_declare env.catalog env.config w
      ⟨token.text, code.number, token.column, code.path, d.isParameter, false⟩
    exact ⟨hparens, hscopes, hheader⟩

/-- What an identifier that is neither a tag nor a qualifier does. -/
theorem readsIdent_name (env : Environment) (w : Walk) (code : CodeLine) (prev : Option Token)
    (token : Token) (rest : List Token) : w.ReadsIdent (w.name env code prev token rest) := by
  have hreference := readsIdent_reference env w code.number prev token rest
  unfold name
  split
  · split <;> exact .of_eq rfl rfl rfl
  split
  · exact .of_eq rfl rfl rfl
  split
  · split
    · exact readsIdent_declarator env w _ code token rest
    · exact hreference
  · exact hreference

/-- What an identifier does. -/
theorem readsIdent_ident (env : Environment) (w : Walk) (code : CodeLine) (prev : Option Token)
    (token : Token) (rest : List Token) :
    w.ReadsIdent (w.ident env code prev token rest).1 := by
  have hkept : w.ReadsIdent w := .of_eq rfl rfl rfl
  unfold ident
  split
  · exact hkept
  split
  · exact hkept
  split
  · exact .of_eq rfl rfl rfl
  split
  · unfold tag
    split <;> exact .of_eq rfl rfl rfl
  split
  · exact hkept
  split
  · exact hkept
  split
  · exact ⟨rfl, Or.inl rfl, Or.inr (Or.inr rfl)⟩
  · exact readsIdent_name env w code prev token rest

/-- All scopes wait as headers do, and an announced header is one of a function or of a counting
loop. -/
structure AwaitsHeaders (w : Walk) : Prop where
  /-- All scopes wait as headers do. -/
  scopes : w.scopes.WaitsForBraces
  /-- An announced header is one of a function or of a counting loop. -/
  pending : ∀ kind, w.pendingHeader = some kind → kind = .function ∨ kind = .forLoop

/-- An identifier keeps scopes waiting as headers do. -/
theorem AwaitsHeaders.readsIdent (hw : w.AwaitsHeaders) (h : w.ReadsIdent w') :
    w'.AwaitsHeaders where
  scopes := by
    rcases h.scopes with hscopes | ⟨v, hscopes⟩ | ⟨name, hscopes⟩
    · exact hscopes ▸ hw.scopes
    · exact hscopes ▸ hw.scopes.declare v
    · exact hscopes ▸ hw.scopes.use name
  pending := by
    intro kind hkind
    rcases h.header with hheader | hheader | hheader
    · exact hw.pending kind (hheader ▸ hkind)
    · exact Or.inl (Option.some.inj (hkind.symm.trans hheader))
    · exact Or.inr (Option.some.inj (hkind.symm.trans hheader))

/-- The start of a block binds its brace to a header whose parentheses are closed, or opens a
scope that does not wait. -/
theorem waitsForBraces_openBlock (hw : w.scopes.WaitsForBraces) (line : Nat) :
    (openBrace.openBlock line w).scopes.WaitsForBraces := by
  unfold openBrace.openBlock
  split
  case isTrue hwaits =>
    have hclosed : w.scopes.current.headerOpen = false := by
      simpa using (Bool.and_eq_true_iff.mp hwaits).2
    exact hw.bindBrace hclosed
  case isFalse => exact hw.push (fun h => Bool.noConfusion h) line

/-- A bracket keeps scopes waiting as headers do. -/
theorem AwaitsHeaders.readMark (hw : w.AwaitsHeaders) (line : Nat) (mark : BracketMark) :
    (w.readMark line mark).AwaitsHeaders := by
  cases mark with
  | opens bracket =>
    cases bracket with
    | paren =>
      rw [Walk.readMark, openParen]
      split
      case h_1 kind hpending =>
        exact ⟨hw.scopes.push (fun _ => hw.pending kind hpending) line, fun _ h => by cases h⟩
      case h_2 => exact ⟨hw.scopes, hw.pending⟩
    | square => exact ⟨hw.scopes, hw.pending⟩
    | brace =>
      rw [Walk.readMark]
      rcases openBrace_cases w line with ⟨d, _, hread⟩ | hread
      · exact hread ▸ ⟨hw.scopes, hw.pending⟩
      · rw [hread]
        have hpending : (openBrace.openBlock line { w with decl := none }).pendingHeader =
            w.pendingHeader := by
          unfold openBrace.openBlock
          split <;> rfl
        refine ⟨?_, by rw [hpending]; exact hw.pending⟩
        exact @waitsForBraces_openBlock { w with decl := none } hw.scopes line
  | closes bracket =>
    cases bracket with
    | paren => exact ⟨hw.scopes.closeHeader _, hw.pending⟩
    | square => exact ⟨hw.scopes, hw.pending⟩
    | brace =>
      rw [Walk.readMark]
      rcases closeBrace_cases w with ⟨d, _, hread⟩ | hread
      · exact hread ▸ ⟨hw.scopes, hw.pending⟩
      · exact hread ▸ ⟨hw.scopes.of_arena_eq rfl, fun _ h => by cases h⟩

/-- Punctuation other than brackets concerns neither the arena nor the announced header, nor the
open parentheses. -/
theorem punct_of_mark?_eq_none {token : Token} (hkind : token.kind = .punct)
    (hmark : token.mark? = none) (w : Walk) (line : Nat) :
    (w.punct line token.text).scopes.arena = w.scopes.arena ∧
      (w.punct line token.text).pendingHeader = w.pendingHeader ∧
      (w.punct line token.text).parens = w.parens := by
  rw [punct_of_ne_mark w line (Token.ne_of_mark?_eq_none hkind hmark)]
  split
  · exact ⟨rfl, rfl, rfl⟩
  split
  · exact ⟨rfl, rfl, rfl⟩
  split <;> exact ⟨rfl, rfl, rfl⟩

end Walk

variable {env : Environment} {step : WalkStep} {steps : List WalkStep} {w w' : Walk}

/-- A step keeps scopes waiting as headers do. -/
theorem WalkStep.awaitsHeaders_after (env : Environment) (h : step.before.AwaitsHeaders) :
    (step.after env).AwaitsHeaders := by
  cases hmark : step.token.mark? with
  | some mark =>
    rw [WalkStep.after_of_mark env hmark]
    exact h.readMark _ mark
  | none =>
    unfold WalkStep.after WalkStep.read
    split
    case h_1 hkind =>
      obtain ⟨harena, hpending, _⟩ :=
        Walk.punct_of_mark?_eq_none hkind hmark step.before step.code.number
      exact ⟨h.scopes.of_arena_eq harena, fun kind hkind => h.pending kind (hpending ▸ hkind)⟩
    case h_2 => exact h
    case h_3 =>
      exact h.readsIdent (Walk.readsIdent_ident env step.before step.code step.prev step.token
        step.rest)

/-- Steps keep scopes waiting as headers do. -/
theorem awaitsHeaders_of_isRun (hrun : IsRun env w steps w') (hw : w.AwaitsHeaders) :
    w'.AwaitsHeaders := by
  induction steps generalizing w with
  | nil =>
    obtain rfl : w = w' := hrun
    exact hw
  | cons step steps ih =>
    obtain ⟨rfl, hrun⟩ := hrun
    exact ih hrun (WalkStep.awaitsHeaders_after env hw)

end BrickLint
