import BrickLint.Proofs.BraceScope.Pairs
import BrickLint.Proofs.LoopScope.Statements

/-!
# Chains of loops

Several loop headers one behind the other share one body. The brace of the body is bound to the
scope of the last header, and its end closes this scope alone: the scopes of the other headers go on
waiting for a brace. So a single loop leaves the scopes as they were, and behind a longer chain the
next declaration is made in the scope of a loop that has ended, which the semicolon behind it drops.
-/

namespace BrickLint.LoopScope

open LexicalScope (popWhile_eq_self)

/-- The words of the start of a loop header, up to the first semicolon. -/
def startWords (counter : String) : List Word :=
  [word "for", mark "(", word "int", word counter, mark "=", number "0", mark ";"]

/-- The words of the test of a loop. -/
def testWords (counter : String) : List Word :=
  [word counter, mark "<", number "1", mark ";"]

/-- The words of the end of a loop header, behind the second semicolon. -/
def advanceWords (counter : String) : List Word :=
  [word counter, mark "+", mark "+", mark ")"]

/-- The words of a loop header. -/
def headerWords (counter : String) : List Word :=
  startWords counter ++ (testWords counter ++ advanceWords counter)

/-- The words of a chain of loop headers and its body. -/
def chainWords (counters : List String) (body : Statements) : List Word :=
  counters.flatMap headerWords ++ mark "\x7b" :: (body.words ++ [mark "\x7d"])

variable {env : Environment} {w w' : Walk}

/-- The outline of a loop whose header has been read, in front of its body. -/
def waitingLoop (parens : Nat) (counter : String) : ScopeOutline :=
  ⟨.forLoop, true, false, parens, [counter]⟩

/-- The outline of a loop while its header is read. -/
def openLoop (parens : Nat) (counter : String) : ScopeOutline :=
  ⟨.forLoop, true, true, parens, [counter]⟩

/-- A loop stays at the semicolons of its header. -/
theorem popWhile_openLoop {s : ScopeStack} {parens : Nat} {counter : String}
    (h : s.current.outline = openLoop parens counter) : s.popWhile isWaiting = s := by
  have hheader : s.current.headerOpen = true := congrArg ScopeOutline.headerOpen h
  exact popWhile_eq_self (by simp [isWaiting, hheader])

/-- The start of a loop header enters a scope with the counter. -/
theorem exists_of_start {counter : String} (h : WalksOver env (startWords counter) w w')
    (hw : IsReady w) (hname : IsPlainName env counter) :
    ∃ s findings, w.scopes.Enters s ∧ s.current.outline = openLoop w.parens counter ∧
      w' = { w with
        scopes := s
        parens := w.parens + 1
        pendingHeader := none
        decl := none
        findings := findings } := by
  obtain ⟨line, hparen⟩ := (h.for_cons hw.no_asm).mark_cons
  have hopen : Walk.punct { w with pendingHeader := some .forLoop, decl := none } line "(" =
      { w with
        scopes := w.scopes.push .forLoop line (some w.parens)
        parens := w.parens + 1
        pendingHeader := none
        decl := none } := by
    simp [Walk.punct, Walk.openParen]
  rw [hopen] at hparen
  have henters := ScopeStack.Enters.push w.scopes .forLoop line (some w.parens)
  have hnew : (w.scopes.push .forLoop line (some w.parens)).current.outline =
      ⟨.forLoop, true, true, w.parens, []⟩ :=
    congrArg Scope.outline (ScopeStack.current_enter w.scopes _)
  have hkind : (w.scopes.push .forLoop line (some w.parens)).current.kind = .forLoop :=
    congrArg ScopeOutline.kind hnew
  have hasm := henters.inside_eq_false hw.grounded.toWellFormed hkind (by decide) hw.no_asm
  obtain ⟨s, findings, hkeeps, houtline, hdeclared⟩ := (hparen.int_cons hasm rfl).declarator_cons
    hname (hw.grounded.push _ _ _).toWellFormed hasm rfl rfl rfl (by decide)
  have houtline : s.current.outline = openLoop w.parens counter :=
    houtline.trans (congrArg (ScopeOutline.addName · counter) hnew)
  obtain ⟨line', hequals⟩ := hdeclared.mark_cons
  obtain ⟨line'', hend⟩ := hequals.number_cons.mark_cons
  refine ⟨s, findings, henters.keeps hkeeps, houtline, ?_⟩
  rw [← hend.eq_of_nil, punct_semicolon]
  simp [Walk.punct, Walk.startDeclaration, popWhile_openLoop houtline]

/-- The test of a loop changes no outline. -/
theorem exists_of_test {counter : String} (h : WalksOver env (testWords counter) w w')
    (hw : IsReady w) (hname : IsPlainName env counter) {parens : Nat}
    (houtline : w.scopes.current.outline = openLoop parens counter) :
    ∃ s findings, w.scopes.Keeps s ∧ s.current.outline = openLoop parens counter ∧
      w' = { w with scopes := s, decl := none, findings := findings } := by
  obtain ⟨s, findings, hkeeps, hsame, hused⟩ := h.use_cons hname hw.no_asm hw.decl (by decide)
    (by decide)
  obtain ⟨line, hless⟩ := hused.mark_cons
  obtain ⟨line', hend⟩ := hless.number_cons.mark_cons
  refine ⟨s, findings, hkeeps, hsame.trans houtline, ?_⟩
  rw [← hend.eq_of_nil, punct_semicolon]
  simp [Walk.punct, popWhile_openLoop (hsame.trans houtline)]

/-- The end of a loop header closes its parentheses. -/
theorem exists_of_advance {counter : String} (h : WalksOver env (advanceWords counter) w w')
    (hw : IsReady w) (hname : IsPlainName env counter) {parens : Nat}
    (houtline : w.scopes.current.outline = openLoop parens counter)
    (hparens : w.parens = parens + 1) :
    ∃ s findings, w.scopes.Keeps s ∧ s.current.outline = waitingLoop parens counter ∧
      w' = { w with scopes := s, parens := parens, decl := none, findings := findings } := by
  obtain ⟨s, findings, hkeeps, hsame, hused⟩ := h.use_cons hname hw.no_asm hw.decl (by decide)
    (by decide)
  obtain ⟨line, hplus⟩ := hused.mark_cons
  obtain ⟨line', hplus'⟩ := hplus.mark_cons
  obtain ⟨line'', hend⟩ := hplus'.mark_cons
  have hclosed : (s.modifyCurrent (Walk.closeHeader parens)).current.outline =
      waitingLoop parens counter := by
    have hcurrent := hsame.trans houtline
    have hheader : s.current.headerOpen = true := congrArg ScopeOutline.headerOpen hcurrent
    have hdepth : s.current.headerDepth = parens := congrArg ScopeOutline.headerDepth hcurrent
    rw [ScopeStack.current_modifyCurrent (hkeeps.wellFormed hw.grounded.toWellFormed),
      Walk.closeHeader, if_pos (by simp [hheader, hdepth])]
    exact congrArg (fun outline : ScopeOutline => { outline with headerOpen := false }) hcurrent
  refine ⟨s.modifyCurrent (Walk.closeHeader parens), findings,
    hkeeps.trans (.modifyCurrent _ _), hclosed, ?_⟩
  rw [← hend.eq_of_nil]
  simp [Walk.punct, Walk.closeParen, hparens, hw.decl]

/-- The header of a loop enters a scope that waits for its body. -/
structure EntersLoop (w w' : Walk) (counter : String) : Prop where
  /-- The scope of the loop is the innermost one. -/
  enters : w.scopes.Enters w'.scopes
  /-- It holds the counter and waits for its body. -/
  outline : w'.scopes.current.outline = waitingLoop w.parens counter
  /-- No declaration is open. -/
  decl : w'.decl = none
  /-- The parentheses are closed. -/
  parens : w'.parens = w.parens

/-- The walk is ready behind the header of a loop. -/
theorem EntersLoop.isReady {counter : String} (h : EntersLoop w w' counter) (hw : IsReady w)
    (hground : w'.scopes.Grounded) : IsReady w' where
  grounded := hground
  decl := h.decl
  no_asm := by
    have hkind : w'.scopes.current.kind = .forLoop := congrArg ScopeOutline.kind h.outline
    exact h.enters.inside_eq_false hw.grounded.toWellFormed hkind (by decide) hw.no_asm

/-- Reading the header of a loop. -/
theorem entersLoop_header {counter : String} (h : WalksOver env (headerWords counter) w w')
    (hw : IsReady w) (hname : IsPlainName env counter) : EntersLoop w w' counter := by
  obtain ⟨mid, hstart, hrest⟩ := h.split
  obtain ⟨mid', htest, hadvance⟩ := hrest.split
  have hground := hstart.grounded hw.grounded
  have hground' := htest.grounded hground
  obtain ⟨s, findings, henters, houtline, rfl⟩ := exists_of_start hstart hw hname
  have hkind : s.current.kind = .forLoop := congrArg ScopeOutline.kind houtline
  have hasm := henters.inside_eq_false hw.grounded.toWellFormed hkind (by decide) hw.no_asm
  obtain ⟨s', findings', hkeeps, houtline', rfl⟩ := exists_of_test htest ⟨hground, rfl, hasm⟩ hname
    houtline
  have hkind' : s'.current.kind = s.current.kind :=
    congrArg ScopeOutline.kind (houtline'.trans houtline.symm)
  have hasm' := (hkeeps.inside_eq hground.toWellFormed hkind' .asm).trans hasm
  obtain ⟨s'', findings'', hkeeps', houtline'', rfl⟩ := exists_of_advance hadvance
    ⟨hground', rfl, hasm'⟩ hname houtline' rfl
  exact ⟨(henters.keeps hkeeps).keeps hkeeps', houtline'', rfl, rfl⟩

/-- Above the open scopes lie the scopes of some loops that wait for their bodies, the last one
innermost. All other scopes look the same. -/
structure HasWaiting (w w' : Walk) (counters : List String) : Prop where
  /-- The scopes of the loops are open. -/
  stack_eq : ∃ waiting, w'.scopes.stack = waiting ++ w.scopes.stack ∧
    waiting.map w'.scopes.outlineAt = counters.reverse.map (waitingLoop w.parens)
  /-- No scope leaves the arena. -/
  length_le : w.scopes.arena.length ≤ w'.scopes.arena.length
  /-- The scopes that were there before look the same. -/
  below : ∀ index < w.scopes.arena.length, w'.scopes.outlineAt index = w.scopes.outlineAt index

/-- Reading the headers of loops, one behind the other. -/
theorem hasWaiting_headers {counters : List String}
    (h : WalksOver env (counters.flatMap headerWords) w w') (hw : IsReady w)
    (hnames : ∀ counter ∈ counters, IsPlainName env counter) :
    HasWaiting w w' counters ∧ IsReady w' := by
  induction counters generalizing w with
  | nil =>
    obtain rfl := h.eq_of_nil
    exact ⟨⟨⟨[], rfl, rfl⟩, Nat.le_refl _, fun _ _ => rfl⟩, hw⟩
  | cons counter counters ih =>
    obtain ⟨hname, hnames⟩ := List.forall_mem_cons.mp hnames
    obtain ⟨mid, hheader, hrest⟩ := h.split
    have hloop := entersLoop_header hheader hw hname
    obtain ⟨hwaiting, hready⟩ := ih hrest (hloop.isReady hw (hheader.grounded hw.grounded)) hnames
    obtain ⟨waiting, hstack, houtlines⟩ := hwaiting.stack_eq
    refine ⟨⟨⟨waiting ++ [w.scopes.arena.length], ?_, ?_⟩, ?_, fun index hindex => ?_⟩, hready⟩
    · rw [hstack, hloop.enters.stack_eq]
      simp
    · have hfirst : w'.scopes.outlineAt w.scopes.arena.length = waitingLoop w.parens counter := by
        rw [hwaiting.below _ hloop.enters.length_lt, ← hloop.enters.currentIndex_eq]
        exact hloop.outline
      rw [List.map_append, houtlines, List.map_singleton, hfirst, hloop.parens]
      simp
    · exact Nat.le_trans (Nat.le_of_lt hloop.enters.length_lt) hwaiting.length_le
    · rw [hwaiting.below index (Nat.lt_trans hindex hloop.enters.length_lt),
        hloop.enters.below index hindex]

/-- The body of a loop, between its braces, closes the scope of this loop and no other. -/
theorem keeps_of_loopBody {counter : String} {mid : Walk} {body : Statements}
    (hloop : EntersLoop w mid counter) (hw : IsReady w) (hmid : IsReady mid)
    (h : WalksOver env (mark "\x7b" :: (body.words ++ [mark "\x7d"])) mid w')
    (hnames : ∀ name ∈ body.names, IsPlainName env name) :
    w.scopes.Keeps w'.scopes ∧ w'.scopes.current.outline = w.scopes.current.outline ∧
      w'.decl = none := by
  have hawaits : mid.scopes.current.awaitingBrace = true :=
    congrArg ScopeOutline.awaitingBrace hloop.outline
  have hclosed : mid.scopes.current.headerOpen = false :=
    congrArg ScopeOutline.headerOpen hloop.outline
  obtain ⟨line, hbrace⟩ := h.mark_cons
  rw [punct_bindBrace hmid.decl (by simp [isWaiting, hawaits, hclosed])] at hbrace
  have hbind : mid.scopes.Keeps mid.scopes.bindBrace := .modifyCurrent _ _
  have hbound : mid.scopes.bindBrace.current.outline =
      { waitingLoop w.parens counter with awaitingBrace := false } := by
    rw [← hloop.outline]
    exact congrArg Scope.outline
      (ScopeStack.current_modifyCurrent hmid.grounded.toWellFormed _)
  have hkind : mid.scopes.bindBrace.current.kind = .forLoop := congrArg ScopeOutline.kind hbound
  have hsettled : mid.scopes.bindBrace.current.awaitingBrace = false :=
    congrArg ScopeOutline.awaitingBrace hbound
  have hkept : mid.scopes.bindBrace.current.kind = mid.scopes.current.kind :=
    hkind.trans (congrArg ScopeOutline.kind hloop.outline).symm
  have hready : IsReady { mid with scopes := mid.scopes.bindBrace, pendingBlock := none } :=
    ⟨hmid.grounded.bindBrace hawaits, hmid.decl,
      (hbind.inside_eq hmid.grounded.toWellFormed hkept .asm).trans hmid.no_asm⟩
  obtain ⟨last, hinner, hclose⟩ := hbrace.split
  have hstays := staysInside_statements body hinner hready hsettled rfl hnames
  obtain ⟨line', hend⟩ := hclose.mark_cons
  rw [punct_closeBrace hstays.decl (hstays.awaitingBrace_eq.trans hsettled)
    (Or.inr (hstays.kind_eq.trans hkind))] at hend
  obtain ⟨hkeeps, houtline⟩ :=
    ((hloop.enters.keeps hbind).keeps hstays.keeps).keeps_pop hw.grounded.toWellFormed
  rw [← hend.eq_of_nil]
  exact ⟨hkeeps, houtline, rfl⟩

/-- Behind a chain of loops, all headers but the last one wait for a brace. -/
theorem hasWaiting_chain {counters : List String} {body : Statements} (hne : counters ≠ [])
    (h : WalksOver env (chainWords counters body) w w') (hw : IsReady w)
    (hnames : ∀ name ∈ counters ++ body.names, IsPlainName env name) :
    HasWaiting w w' counters.dropLast ∧ IsReady w' := by
  obtain ⟨hcounters, hbody⟩ := List.forall_mem_append.mp hnames
  rw [chainWords, ← List.dropLast_append_getLast hne, List.flatMap_append, List.append_assoc] at h
  obtain ⟨mid, hheaders, hrest⟩ := h.split
  obtain ⟨mid', hheader, hloop⟩ := hrest.split
  rw [List.flatMap_singleton] at hheader
  obtain ⟨hwaiting, hmid⟩ := hasWaiting_headers hheaders hw fun counter hcounter =>
    hcounters counter (List.mem_of_mem_dropLast hcounter)
  have henters := entersLoop_header hheader hmid (hcounters _ (List.getLast_mem hne))
  have hground := hheader.grounded hmid.grounded
  obtain ⟨hkeeps, houtline, hdecl⟩ := keeps_of_loopBody henters hmid (henters.isReady hmid hground)
    hloop hbody
  -- The last loop leaves no trace.
  have hsame := fun index => @ScopeStack.Keeps.outlineAt_eq _ _ hkeeps houtline index
  obtain ⟨waiting, hstack, houtlines⟩ := hwaiting.stack_eq
  refine ⟨⟨⟨waiting, hkeeps.stack_eq.trans hstack, ?_⟩,
    Nat.le_trans hwaiting.length_le hkeeps.length_le, fun index hindex => ?_⟩,
    hloop.grounded hground, hdecl, ?_⟩
  · rw [← houtlines]
    refine List.map_congr_left fun index hindex => hsame index ?_
    exact hmid.grounded.lt_length index (hstack ▸ List.mem_append_left _ hindex)
  · rw [hsame index (Nat.lt_of_lt_of_le hindex hwaiting.length_le), hwaiting.below index hindex]
  · have hkind : w'.scopes.current.kind = mid.scopes.current.kind :=
      congrArg ScopeOutline.kind houtline
    exact (hkeeps.inside_eq hmid.grounded.toWellFormed hkind .asm).trans hmid.no_asm

variable {counters : List String}

/-- When no header waits, the open scopes are those from before. -/
theorem HasWaiting.stack_of_nil (h : HasWaiting w w' []) : w'.scopes.stack = w.scopes.stack := by
  obtain ⟨waiting, hstack, houtlines⟩ := h.stack_eq
  obtain rfl : waiting = [] := List.map_eq_nil_iff.mp houtlines
  exact hstack

/-- The open scopes are those from before if and only if no header waits. -/
theorem HasWaiting.stack_eq_iff (h : HasWaiting w w' counters) :
    w'.scopes.stack = w.scopes.stack ↔ counters = [] := by
  constructor
  · intro hsame
    obtain ⟨waiting, hstack, houtlines⟩ := h.stack_eq
    have hnone : waiting = [] := by simpa using hstack.symm.trans hsame
    rw [hnone, List.map_nil] at houtlines
    exact List.reverse_eq_nil_iff.mp (List.map_eq_nil_iff.mp houtlines.symm)
  · rintro rfl
    exact h.stack_of_nil

/-- The counters of waiting headers are visible. -/
theorem HasWaiting.isSome_find? (h : HasWaiting w w' counters) {counter : String}
    (hcounter : counter ∈ counters) : (w'.scopes.find? counter).isSome = true := by
  obtain ⟨waiting, hstack, houtlines⟩ := h.stack_eq
  have hmem : waitingLoop w.parens counter ∈ waiting.map w'.scopes.outlineAt := by
    rw [houtlines]
    exact List.mem_map_of_mem (List.mem_reverse.mpr hcounter)
  obtain ⟨index, hindex, houtline⟩ := List.mem_map.mp hmem
  have howner : (w'.scopes.owner? counter).isSome = true := by
    refine List.find?_isSome.mpr ⟨index, hstack ▸ List.mem_append_left _ hindex, ?_⟩
    simp [houtline, waitingLoop]
  rwa [ScopeStack.owner?_eq_map_find?, Option.isSome_map] at howner

/-- When no header waits, the same names are visible as before. -/
theorem HasWaiting.owner?_of_nil (h : HasWaiting w w' []) (hw : IsReady w) (name : String) :
    w'.scopes.owner? name = w.scopes.owner? name :=
  ScopeStack.owner?_congr h.stack_of_nil
    (fun index hindex => h.below index (hw.grounded.lt_length index hindex)) name

/-- A scope in which a name is declared waits for a brace if it did before. -/
theorem isWaiting_of_declaration {s t : ScopeStack} {name : String} (h : s.Keeps t)
    (houtline : t.current.outline = s.current.outline.addName name) {index : Nat}
    (hindex : index < s.arena.length) :
    isWaiting (t.scopeAt index) =
      ((s.outlineAt index).awaitingBrace && !(s.outlineAt index).headerOpen) := by
  by_cases hne : index = s.currentIndex
  · have hawaiting : t.current.awaitingBrace = s.current.awaitingBrace :=
      congrArg ScopeOutline.awaitingBrace houtline
    have hheader : t.current.headerOpen = s.current.headerOpen :=
      congrArg ScopeOutline.headerOpen houtline
    rw [ScopeStack.current, h.currentIndex_eq] at hawaiting hheader
    rw [hne, isWaiting, hawaiting, hheader]
    rfl
  · rw [← h.others index hindex hne]
    rfl

/-- A semicolon behind a declaration drops the headers that wait, and nothing else. -/
theorem HasWaiting.stack_popWhile (h : HasWaiting w w' counters) (hw : IsReady w)
    (hsettled : w.scopes.current.awaitingBrace = false) (hw' : IsReady w') {s : ScopeStack}
    {name : String} (hkeeps : w'.scopes.Keeps s)
    (houtline : s.current.outline = w'.scopes.current.outline.addName name) :
    (s.popWhile isWaiting).stack = w.scopes.stack := by
  obtain ⟨waiting, hstack, houtlines⟩ := h.stack_eq
  obtain ⟨top, rest, hopen⟩ := List.exists_cons_of_ne_nil hw.grounded.stack_ne_nil
  have hin : ∀ index ∈ waiting ++ w.scopes.stack, isWaiting (s.scopeAt index) =
      ((w'.scopes.outlineAt index).awaitingBrace && !(w'.scopes.outlineAt index).headerOpen) :=
    fun index hmem => isWaiting_of_declaration hkeeps houtline
      (hw'.grounded.lt_length index (hstack ▸ hmem))
  have hwaits : ∀ index ∈ waiting, isWaiting (s.scopeAt index) = true := by
    intro index hmem
    rw [hin index (List.mem_append_left _ hmem)]
    obtain ⟨counter, _, hloop⟩ :=
      List.mem_map.mp (houtlines ▸ List.mem_map_of_mem hmem : w'.scopes.outlineAt index ∈ _)
    simp [← hloop, waitingLoop]
  have hstays : isWaiting (s.scopeAt top) = false := by
    have htop : w.scopes.currentIndex = top := by simp [ScopeStack.currentIndex, hopen]
    have hmem : top ∈ w.scopes.stack := hopen ▸ List.mem_cons_self
    rw [hin top (List.mem_append_right _ hmem), h.below top (hw.grounded.lt_length top hmem),
      ← htop, ScopeStack.outlineAt_currentIndex]
    simp [Scope.outline, hsettled]
  change ScopeStack.dropEntries (fun index => isWaiting (s.scopeAt index)) s.stack = _
  rw [hkeeps.stack_eq, hstack, hopen,
    @ScopeStack.dropEntries_append (fun index => isWaiting (s.scopeAt index)) top hstays,
    List.dropWhile_eq_nil_iff.mpr hwaits, List.nil_append]

/-- While a header waits, the innermost scope is none of those from before. -/
theorem HasWaiting.ne_currentIndex (h : HasWaiting w w' counters) (hw' : IsReady w')
    (hsome : counters ≠ []) {index : Nat} (hmem : index ∈ w.scopes.stack) :
    index ≠ w'.scopes.currentIndex := by
  obtain ⟨waiting, hstack, houtlines⟩ := h.stack_eq
  cases waiting with
  | nil =>
    rw [List.map_nil] at houtlines
    exact absurd (List.reverse_eq_nil_iff.mp (List.map_eq_nil_iff.mp houtlines.symm)) hsome
  | cons top waiting =>
    have hnodup := hw'.grounded.nodup
    rw [hstack, List.cons_append] at hnodup
    have htop : w'.scopes.currentIndex = top := by simp [ScopeStack.currentIndex, hstack]
    rw [htop]
    rintro rfl
    exact (List.nodup_cons.mp hnodup).1 (List.mem_append_right _ hmem)

/-- Behind waiting headers, the next declaration is made in the scope of the last one, and its
semicolon drops them all. -/
theorem HasWaiting.declaration (h : HasWaiting w w' counters) (hw : IsReady w)
    (hsettled : w.scopes.current.awaitingBrace = false) (hw' : IsReady w') {name : String}
    (hname : IsPlainName env name) {w'' : Walk}
    (hwalk : WalksOver env (declarationWords name) w' w'') :
    w''.scopes.stack = w.scopes.stack ∧
      (counters = [] → name ∈ (w''.scopes.outlineAt w.scopes.currentIndex).names) ∧
      (counters ≠ [] → ∀ other, w''.scopes.owner? other = w.scopes.owner? other) := by
  obtain ⟨s, findings, hkeeps, houtline, rfl⟩ := exists_of_declaration hwalk hw' hname
  have hdropped := h.stack_popWhile hw hsettled hw' hkeeps houtline
  refine ⟨hdropped, ?_, fun hsome other => ?_⟩
  · rintro rfl
    have hplace : w.scopes.currentIndex = s.currentIndex := by
      rw [hkeeps.currentIndex_eq]
      simp only [ScopeStack.currentIndex, h.stack_of_nil]
    change name ∈ (s.outlineAt w.scopes.currentIndex).names
    rw [hplace, ScopeStack.outlineAt_currentIndex, houtline]
    exact ScopeOutline.mem_names_addName _ _
  · refine ScopeStack.owner?_congr hdropped (fun index hmem => ?_) other
    -- The declaration is made in a scope above those from before.
    have hopen : index ∈ w'.scopes.stack := by
      obtain ⟨waiting, hstack, _⟩ := h.stack_eq
      exact hstack ▸ List.mem_append_right _ hmem
    have hkept := hkeeps.others index (hw'.grounded.lt_length index hopen)
      (h.ne_currentIndex hw' hsome hmem)
    exact hkept.trans (h.below index (hw.grounded.lt_length index hmem))

/-- A chain of loops with one body leaves the scopes as they were if and only if it has one loop:
the headers of all other loops go on waiting, with their counters visible. The next declaration ends
them. Behind one loop it is made in the block around the loop, and the name is visible as long as
the block is open. Behind more than one it is lost: the same names are visible as before the
loops. -/
theorem loop_chain_closes_last (env : Environment) {w w' : Walk} (hw : IsReady w)
    (hsettled : w.scopes.current.awaitingBrace = false) {counters : List String}
    (hne : counters ≠ []) (body : Statements)
    (hnames : ∀ name ∈ counters ++ body.names, IsPlainName env name)
    (hwalk : WalksOver env (chainWords counters body) w w') :
    (w'.scopes.stack = w.scopes.stack ↔ counters.length = 1) ∧
    HasWaiting w w' counters.dropLast ∧
    (∀ counter ∈ counters.dropLast, (w'.scopes.find? counter).isSome = true) ∧
    (counters.length = 1 → ∀ name, w'.scopes.owner? name = w.scopes.owner? name) ∧
    ∀ name w'', IsPlainName env name → WalksOver env (declarationWords name) w' w'' →
      w''.scopes.stack = w.scopes.stack ∧
      (counters.length = 1 → name ∈ (w''.scopes.outlineAt w.scopes.currentIndex).names ∧
        ∀ later u, IsRun env w'' later u → w.scopes.currentIndex ∈ u.scopes.stack →
          (u.scopes.find? name).isSome = true) ∧
      (counters.length ≠ 1 → ∀ other, w''.scopes.owner? other = w.scopes.owner? other) := by
  obtain ⟨hwaiting, hready⟩ := hasWaiting_chain hne hwalk hw hnames
  have hone : counters.dropLast = [] ↔ counters.length = 1 := by
    have hpos := List.length_pos_iff.mpr hne
    rw [← List.length_eq_zero_iff, List.length_dropLast]
    omega
  refine ⟨hwaiting.stack_eq_iff.trans hone, hwaiting, fun counter => hwaiting.isSome_find?,
    fun hlength => ?_, fun name w'' hname hnext => ?_⟩
  · rw [hone.mpr hlength] at hwaiting
    exact hwaiting.owner?_of_nil hw
  · obtain ⟨hstack, hfirst, hlost⟩ := hwaiting.declaration hw hsettled hready hname hnext
    refine ⟨hstack, fun hlength => ?_, fun hlength => hlost (mt hone.mp hlength)⟩
    have hheld := hfirst (hone.mpr hlength)
    exact ⟨hheld, fun later u hrun => isSome_find?_of_isRun hrun (hnext.grounded hready.grounded)
      hheld⟩

/-- What is seen on the way through a source, in front of a part of the steps, behind it and behind
a second part, and the words of both. -/
def passage {α : Type} (catalog : Catalog) (config : Config) (text : List Char) (view : Walk → α)
    (start length more : Nat) : List (Option α) × List (Option (List Word)) :=
  let steps := walkTrace catalog config text
  let part := fun start length => (steps.drop start).take length
  ([start, start + length, start + length + more].map fun place =>
      steps[place]?.map fun step => view step.before,
    [part start length, part (start + length) more].map
      (plainWords? (environmentOf catalog config text)))

/-- What is seen on the way through a source is there. -/
theorem exists_of_passage {α : Type} {catalog : Catalog} {config : Config} {text : List Char}
    {view : Walk → α}
    {start length more : Nat} {a b c : α} {words words' : List Word}
    (h : passage catalog config text view start length more =
      ([some a, some b, some c], [some words, some words'])) :
    ∃ w w' w'', w.scopes.Grounded ∧ WalksOver (environmentOf catalog config text) words w w' ∧
      WalksOver (environmentOf catalog config text) words' w' w'' ∧
      view w = a ∧ view w' = b ∧ view w'' = c := by
  simp only [passage, List.map_cons, List.map_nil, Prod.mk.injEq, List.cons.injEq,
    Option.map_eq_some_iff, and_true] at h
  obtain ⟨⟨⟨first, hfirst, rfl⟩, ⟨mid, hmid, rfl⟩, ⟨last, hlast, rfl⟩⟩, hwords, hwords'⟩ := h
  have hrun := (isRun_take_drop (isRun_walkTrace catalog config text) hfirst).1
  exact ⟨_, _, _, grounded_of_isRun hrun ScopeStack.grounded_initial,
    walksOver_between hfirst hmid hwords, walksOver_between hmid hlast hwords',
    rfl, rfl, rfl⟩

/-- A function with a loop and a declaration behind it. -/
def singleLoop : List Char :=
  "void f()\x7bfor(int i=0;i<1;i++)\x7bint y;y=i;\x7dint x;x=x;\x7d".toList

/-- Behind one loop a variable is declared in the block of the function. -/
theorem declared_behind_singleLoop :
    ∃ w w' w'', IsReady w ∧ w.scopes.current.awaitingBrace = false ∧
      WalksOver (environmentOf typeCatalog {} singleLoop)
        (chainWords ["i"] (.declare "y" (.assign "y" "i" .done))) w w' ∧
      WalksOver (environmentOf typeCatalog {} singleLoop) (declarationWords "x") w' w'' ∧
      w'.scopes.stack = w.scopes.stack ∧
      "x" ∈ (w''.scopes.outlineAt w.scopes.currentIndex).names := by
  have hplain : ∀ name ∈ ["i", "y", "x"],
      IsPlainName (environmentOf typeCatalog {} singleLoop) name := by
    have hunknown : (["i", "y", "x"].all fun name =>
        !(environmentOf typeCatalog {} singleLoop).isType name &&
          !(environmentOf typeCatalog {} singleLoop).catalog.isKeyword name) = true := by
      cbv
    intro name hname
    have h := List.all_eq_true.mp hunknown name hname
    rw [Bool.and_eq_true, Bool.not_eq_true', Bool.not_eq_true'] at h
    exact ⟨by fin_cases hname <;> decide, h.1, h.2⟩
  have hpassage : passage typeCatalog {} singleLoop
      (fun w => (w.decl.isNone, w.scopes.inside .asm, w.scopes.current.awaitingBrace)) 5 24 3 =
      ([some (true, false, false), some (true, false, false), some (true, false, false)],
        [some (chainWords ["i"] (.declare "y" (.assign "y" "i" .done))),
          some (declarationWords "x")]) := by
    cbv
  obtain ⟨w, w', w'', hground, hloop, hnext, hview, _⟩ := exists_of_passage hpassage
  simp only [Prod.mk.injEq, Option.isNone_iff_eq_none] at hview
  have hready : IsReady w := ⟨hground, hview.1, hview.2.1⟩
  obtain ⟨hstack, _, _, _, hdeclared⟩ := loop_chain_closes_last _ hready hview.2.2 (by decide) _
    (fun name hname => hplain name (by revert hname; revert name; decide)) hloop
  obtain ⟨_, hheld, _⟩ := hdeclared "x" w'' (hplain "x" (by decide)) hnext
  exact ⟨w, w', w'', hready, hview.2.2, hloop, hnext, hstack.mpr rfl, (hheld rfl).1⟩

/-- A function with two loops that share a body, and a declaration behind it. -/
def twoLoops : List Char :=
  "void f()\x7bfor(int i=0;i<1;i++)for(int j=0;j<1;j++)\x7b\x7dint x;x=x;\x7d".toList

/-- The scopes of a chain of loops do not end with its body: behind two loops the first counter is
still visible, and the next declaration is lost, so that a use of the variable is reported. -/
theorem undefined_behind_twoLoops :
    (∃ w w' w'', IsReady w ∧ w.scopes.inside .function = true ∧
      w.scopes.current.awaitingBrace = false ∧
      WalksOver (environmentOf typeCatalog {} (scrub twoLoops)) (chainWords ["i", "j"] .done) w w' ∧
      WalksOver (environmentOf typeCatalog {} (scrub twoLoops)) (declarationWords "x") w' w'' ∧
      w'.scopes.stack ≠ w.scopes.stack ∧ (w'.scopes.find? "i").isSome = true ∧
      w''.scopes.stack = w.scopes.stack ∧ w''.scopes.find? "x" = none) ∧
    .undefinedVariable "x" ∈
      (checkDeclarations typeCatalog {} (scrub twoLoops)).findings.map (·.cause) := by
  have hpassage : passage typeCatalog {} (scrub twoLoops)
      (fun w => (w.decl.isNone, w.scopes.inside .asm, w.scopes.inside .function,
        w.scopes.current.awaitingBrace, w.scopes.stack, (w.scopes.find? "i").isSome,
        (w.scopes.find? "x").isNone)) 5 32 3 =
      ([some (true, false, true, false, [1, 0], false, true),
          some (true, false, true, true, [2, 1, 0], true, true),
          some (true, false, true, false, [1, 0], false, true)],
        [some (chainWords ["i", "j"] .done), some (declarationWords "x")]) := by
    cbv
  have hfindings : (checkDeclarations typeCatalog {} (scrub twoLoops)).findings.map (·.cause) =
      [.undefinedVariable "x", .undefinedVariable "x"] := by
    cbv
  obtain ⟨w, w', w'', hground, hloop, hnext, hview, hview', hview''⟩ := exists_of_passage hpassage
  simp only [Prod.mk.injEq, Option.isNone_iff_eq_none] at hview hview' hview''
  obtain ⟨hdecl, hasm, hfunction, hsettled, hstack, _⟩ := hview
  obtain ⟨_, _, _, _, hstack', hcounter, _⟩ := hview'
  obtain ⟨_, _, _, _, hstack'', _, hlost⟩ := hview''
  refine ⟨⟨w, w', w'', ⟨hground, hdecl, hasm⟩, hfunction, hsettled, hloop, hnext, ?_, hcounter,
    hstack''.trans hstack.symm, hlost⟩, hfindings ▸ List.mem_cons_self⟩
  rw [hstack, hstack']
  decide

end BrickLint.LoopScope
