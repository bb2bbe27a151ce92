import BrickLint.Proofs.LoopScope.Words

/-!
# Statements

Declarations, assignments and blocks, written as words. A list of them inside a block stays inside
it: it may declare names in the innermost scope, and leaves the same scopes open. The semicolons
drop the headers that wait for a brace; here none does.
-/

namespace BrickLint.LoopScope

open LexicalScope (popWhile_eq_self)

/-- A list of statements: nothing, or a statement and what follows it. -/
inductive Statements where
  /-- No statement. -/
  | done
  /-- The declaration `int name;`. -/
  | declare (name : String) (rest : Statements)
  /-- The assignment `target = source;`. -/
  | assign (target source : String) (rest : Statements)
  /-- Statements in braces. -/
  | block (body rest : Statements)
  deriving DecidableEq, Repr

/-- The words of a declaration. -/
def declarationWords (name : String) : List Word :=
  [word "int", word name, mark ";"]

/-- The words of an assignment. -/
def assignmentWords (target source : String) : List Word :=
  [word target, mark "=", word source, mark ";"]

namespace Statements

/-- The words of a list of statements. -/
def words : Statements → List Word
  | done => []
  | declare name rest => declarationWords name ++ rest.words
  | assign target source rest => assignmentWords target source ++ rest.words
  | block body rest => mark "\x7b" :: (body.words ++ mark "\x7d" :: rest.words)

/-- The variables that a list of statements mentions, with repetitions. -/
def names : Statements → List String
  | done => []
  | declare name rest => name :: rest.names
  | assign target source rest => target :: source :: rest.names
  | block body rest => body.names ++ rest.names

end Statements

variable {env : Environment} {w w' : Walk}

/-- No declaration and no assembly block is open. -/
structure IsReady (w : Walk) : Prop where
  /-- The global scope lies at the bottom. -/
  grounded : w.scopes.Grounded
  /-- No declaration is open. -/
  decl : w.decl = none
  /-- No assembly block is open. -/
  no_asm : w.scopes.inside .asm = false

/-- A header scope whose parentheses are closed. -/
def isWaiting (scope : Scope) : Bool :=
  scope.awaitingBrace && !scope.headerOpen

/-- A semicolon ends a statement. -/
theorem punct_semicolon (w : Walk) (line : Nat) :
    w.punct line ";" = { w with decl := none, scopes := w.scopes.popWhile isWaiting } := by
  have hend : w.punct line ";" = w.endStatement := by simp [Walk.punct]
  rw [hend]
  rfl

/-- Outside declarations a brace opens a block or is bound to a header. -/
theorem punct_brace (hdecl : w.decl = none) (line : Nat) :
    w.punct line "\x7b" = Walk.openBrace.openBlock line w := by
  have hopen : w.punct line "\x7b" = w.openBrace line := by simp [Walk.punct]
  rw [hopen]
  simp only [Walk.openBrace, hdecl]

/-- A brace opens a block, where no header waits for it. -/
theorem punct_openBrace (hdecl : w.decl = none) (hblock : w.pendingBlock = none)
    (hsettled : w.scopes.current.awaitingBrace = false) (line : Nat) :
    w.punct line "\x7b" = { w with scopes := w.scopes.push .block line } := by
  rw [punct_brace hdecl]
  simp [Walk.openBrace.openBlock, hsettled, hblock]

/-- A brace is bound to the header that waits for it. -/
theorem punct_bindBrace (hdecl : w.decl = none) (hwaits : isWaiting w.scopes.current = true)
    (line : Nat) :
    w.punct line "\x7b" = { w with scopes := w.scopes.bindBrace, pendingBlock := none } := by
  rw [punct_brace hdecl]
  exact if_pos hwaits

/-- A brace closes a block or a loop that got its body. -/
theorem punct_closeBrace (hdecl : w.decl = none)
    (hsettled : w.scopes.current.awaitingBrace = false)
    (hkind : w.scopes.current.kind = .block ∨ w.scopes.current.kind = .forLoop) (line : Nat) :
    w.punct line "\x7d" =
      { w with scopes := w.scopes.pop, pendingHeader := none, decl := none } := by
  have hclose : w.punct line "\x7d" = w.closeBrace := by simp [Walk.punct]
  have hpopped : (w.scopes.popped?.any fun scope =>
      scope.kind == .aggregate || scope.kind == .enum) = false := by
    unfold ScopeStack.popped?
    split
    case h_1 index outer rest hstack =>
      have hcurrent : w.scopes.scopeAt index = w.scopes.current := by
        simp [ScopeStack.current, ScopeStack.currentIndex, hstack]
      rcases hkind with hkind | hkind <;> simp [hcurrent, hkind]
    case h_2 => rfl
  rw [hclose, Walk.closeBrace, hdecl, Walk.closeBlock, popWhile_eq_self hsettled]
  simp [hpopped]

/-- Only the innermost scope may have got names, and nothing is pending that was not. -/
structure StaysInside (w w' : Walk) : Prop where
  /-- The scopes around the innermost one look the same. -/
  keeps : w.scopes.Keeps w'.scopes
  /-- The innermost scope may have got names. -/
  outline : ∃ names, w'.scopes.current.outline = { w.scopes.current.outline with names := names }
  /-- No declaration is open. -/
  decl : w'.decl = none
  /-- The same block is pending. -/
  pendingBlock : w'.pendingBlock = w.pendingBlock

/-- Nothing has happened. -/
theorem StaysInside.refl (hdecl : w.decl = none) : StaysInside w w :=
  ⟨.refl _, ⟨_, rfl⟩, hdecl, rfl⟩

/-- Statements follow each other. -/
theorem StaysInside.trans {w'' : Walk} (h : StaysInside w w') (h' : StaysInside w' w'') :
    StaysInside w w'' := by
  obtain ⟨names, houtline⟩ := h.outline
  obtain ⟨names', houtline'⟩ := h'.outline
  exact ⟨h.keeps.trans h'.keeps, ⟨names', by rw [houtline', houtline]⟩, h'.decl,
    h'.pendingBlock.trans h.pendingBlock⟩

/-- The innermost scope has the same kind. -/
theorem StaysInside.kind_eq (h : StaysInside w w') :
    w'.scopes.current.kind = w.scopes.current.kind := by
  obtain ⟨names, houtline⟩ := h.outline
  exact congrArg ScopeOutline.kind houtline

/-- The innermost scope waits for a brace if it did before. -/
theorem StaysInside.awaitingBrace_eq (h : StaysInside w w') :
    w'.scopes.current.awaitingBrace = w.scopes.current.awaitingBrace := by
  obtain ⟨names, houtline⟩ := h.outline
  exact congrArg ScopeOutline.awaitingBrace houtline

/-- The walk is ready again. -/
theorem StaysInside.isReady (h : StaysInside w w') (hw : IsReady w)
    (hground : w'.scopes.Grounded) : IsReady w' where
  grounded := hground
  decl := h.decl
  no_asm := (h.keeps.inside_eq hw.grounded.toWellFormed h.kind_eq .asm).trans hw.no_asm

/-- A declaration adds its name to the innermost scope, and the semicolon drops the headers that
wait. -/
theorem exists_of_declaration {name : String} (h : WalksOver env (declarationWords name) w w')
    (hw : IsReady w) (hname : IsPlainName env name) :
    ∃ s findings, w.scopes.Keeps s ∧ s.current.outline = w.scopes.current.outline.addName name ∧
      w' = { w with scopes := s.popWhile isWaiting, decl := none, findings := findings } := by
  have htype := h.int_cons hw.no_asm hw.decl
  obtain ⟨s, findings, hkeeps, houtline, hdeclared⟩ := htype.declarator_cons hname
    hw.grounded.toWellFormed hw.no_asm rfl rfl rfl (by decide)
  obtain ⟨line, hend⟩ := hdeclared.mark_cons
  refine ⟨s, findings, hkeeps, houtline, ?_⟩
  rw [← hend.eq_of_nil, punct_semicolon]
  rfl

/-- An assignment changes no outline; the semicolon drops the headers that wait. -/
theorem exists_of_assignment {target source : String}
    (h : WalksOver env (assignmentWords target source) w w') (hw : IsReady w)
    (htarget : IsPlainName env target) (hsource : IsPlainName env source) :
    ∃ s findings, w.scopes.Keeps s ∧ s.current.outline = w.scopes.current.outline ∧
      w' = { w with scopes := s.popWhile isWaiting, decl := none, findings := findings } := by
  obtain ⟨s, findings, hkeeps, houtline, hused⟩ := h.use_cons htarget hw.no_asm hw.decl (by decide)
    (by decide)
  obtain ⟨line, hequals⟩ := hused.mark_cons
  have hmark : Walk.punct { w with scopes := s, findings := findings } line "=" =
      { w with scopes := s, decl := none, findings := findings } := by
    simp [Walk.punct, hw.decl]
  rw [hmark] at hequals
  have hasm : s.inside .asm = false :=
    (hkeeps.inside_eq hw.grounded.toWellFormed (congrArg ScopeOutline.kind houtline) .asm).trans
      hw.no_asm
  obtain ⟨s', findings', hkeeps', houtline', hused'⟩ := hequals.use_cons hsource hasm rfl
    (by decide) (by decide)
  obtain ⟨line', hend⟩ := hused'.mark_cons
  refine ⟨s', findings', hkeeps.trans hkeeps', houtline'.trans houtline, ?_⟩
  rw [← hend.eq_of_nil, punct_semicolon]

/-- A scope that waits for no brace stays at a semicolon. -/
theorem popWhile_isWaiting {s : ScopeStack} (hsettled : s.current.awaitingBrace = false) :
    s.popWhile isWaiting = s :=
  popWhile_eq_self (by simp [isWaiting, hsettled])

/-- A declaration inside a block. -/
theorem staysInside_declaration {name : String} (h : WalksOver env (declarationWords name) w w')
    (hw : IsReady w) (hsettled : w.scopes.current.awaitingBrace = false)
    (hname : IsPlainName env name) : StaysInside w w' := by
  obtain ⟨s, findings, hkeeps, houtline, rfl⟩ := exists_of_declaration h hw hname
  have hstays : s.current.awaitingBrace = false :=
    (congrArg ScopeOutline.awaitingBrace houtline).trans hsettled
  rw [popWhile_isWaiting hstays]
  exact ⟨hkeeps, ⟨_, houtline⟩, rfl, rfl⟩

/-- An assignment inside a block. -/
theorem staysInside_assignment {target source : String}
    (h : WalksOver env (assignmentWords target source) w w') (hw : IsReady w)
    (hsettled : w.scopes.current.awaitingBrace = false) (htarget : IsPlainName env target)
    (hsource : IsPlainName env source) : StaysInside w w' := by
  obtain ⟨s, findings, hkeeps, houtline, rfl⟩ := exists_of_assignment h hw htarget hsource
  have hstays : s.current.awaitingBrace = false :=
    (congrArg ScopeOutline.awaitingBrace houtline).trans hsettled
  rw [popWhile_isWaiting hstays]
  exact ⟨hkeeps, ⟨_, houtline⟩, rfl, rfl⟩

/-- Statements inside a block stay inside it. -/
theorem staysInside_statements (body : Statements) (h : WalksOver env body.words w w')
    (hw : IsReady w) (hsettled : w.scopes.current.awaitingBrace = false)
    (hblock : w.pendingBlock = none) (hnames : ∀ name ∈ body.names, IsPlainName env name) :
    StaysInside w w' := by
  induction body generalizing w w' with
  | done =>
    obtain rfl := h.eq_of_nil
    exact .refl hw.decl
  | declare name rest ih =>
    obtain ⟨hname, hnames⟩ := List.forall_mem_cons.mp hnames
    obtain ⟨mid, hfirst, hrest⟩ := h.split
    have hstays := staysInside_declaration hfirst hw hsettled hname
    exact hstays.trans (ih hrest (hstays.isReady hw (hfirst.grounded hw.grounded))
      (hstays.awaitingBrace_eq.trans hsettled) (hstays.pendingBlock.trans hblock) hnames)
  | assign target source rest ih =>
    obtain ⟨htarget, hnames⟩ := List.forall_mem_cons.mp hnames
    obtain ⟨hsource, hnames⟩ := List.forall_mem_cons.mp hnames
    obtain ⟨mid, hfirst, hrest⟩ := h.split
    have hstays := staysInside_assignment hfirst hw hsettled htarget hsource
    exact hstays.trans (ih hrest (hstays.isReady hw (hfirst.grounded hw.grounded))
      (hstays.awaitingBrace_eq.trans hsettled) (hstays.pendingBlock.trans hblock) hnames)
  | block body rest ihbody ihrest =>
    obtain ⟨hbody, hnames⟩ := List.forall_mem_append.mp hnames
    have hs := hw.grounded.toWellFormed
    obtain ⟨line, hopen⟩ := h.mark_cons
    rw [punct_openBrace hw.decl hblock hsettled] at hopen
    -- Inside the braces a new scope is the innermost one.
    have henters := ScopeStack.Enters.push w.scopes .block line none
    have hnew : (w.scopes.push .block line none).current.outline = ⟨.block, false, false, 0, []⟩ :=
      congrArg Scope.outline (ScopeStack.current_enter w.scopes _)
    have hkind := congrArg ScopeOutline.kind hnew
    have hopened := congrArg ScopeOutline.awaitingBrace hnew
    have hready : IsReady { w with scopes := w.scopes.push .block line none } :=
      ⟨hw.grounded.push _ _ _, hw.decl,
        henters.inside_eq_false hs hkind (by decide) hw.no_asm⟩
    obtain ⟨mid, hinner, hclose⟩ := hopen.split
    have hstays := ihbody hinner hready hopened hblock hbody
    have hmid := hstays.isReady hready (hinner.grounded hready.grounded)
    obtain ⟨line', hrest⟩ := hclose.mark_cons
    rw [punct_closeBrace hmid.decl (hstays.awaitingBrace_eq.trans hopened)
      (Or.inl (hstays.kind_eq.trans hkind))] at hrest
    obtain ⟨hleft, houtline⟩ := (henters.keeps hstays.keeps).keeps_pop hs
    have hafter : StaysInside w
        { mid with scopes := mid.scopes.pop, pendingHeader := none, decl := none } :=
      ⟨hleft, ⟨_, houtline⟩, rfl, hstays.pendingBlock⟩
    exact hafter.trans (ihrest hrest (hafter.isReady hw hmid.grounded.pop)
      (hafter.awaitingBrace_eq.trans hsettled) (hafter.pendingBlock.trans hblock) hnames)

end BrickLint.LoopScope
