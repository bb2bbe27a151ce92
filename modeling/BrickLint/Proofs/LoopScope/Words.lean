import BrickLint.Proofs.LexicalScope.Rows
import BrickLint.Proofs.LoopScope.Outline
import Mathlib.Data.List.Chain

/-!
# Walking over words

The walk reads a source line by line, and what it does with a word depends on the next one in the
same line. Statements are written here as words, tokens without places, and the walk goes over them
in whatever lines they stand. For every word there is a lemma that takes it from the front.
-/

namespace BrickLint

open Text

/-- Two steps read tokens that follow each other: in one line, or at the end of a line and at the
start of a later one. -/
def WalkStep.FollowedBy (a b : WalkStep) : Prop :=
  a.rest = b.token :: b.rest ∧ b.prev = some a.token ∨ a.rest = [] ∧ b.prev = none

/-- In the steps of a line, a step that takes no second token with it is followed by the next one,
and the last one is at the end of the line. -/
theorem Walk.isChain_trace (env : Environment) (code : CodeLine) (prev : Option Token) (w : Walk)
    (tokens : List Token) :
    (w.trace env code prev tokens).IsChain (fun a b => a.skips env = false → a.FollowedBy b) ∧
      (∀ first ∈ (w.trace env code prev tokens).head?, first.prev = prev ∧
        first.token :: first.rest = tokens) ∧
      ∀ last ∈ (w.trace env code prev tokens).getLast?, last.skips env = false →
        last.rest = [] := by
  fun_induction Walk.trace env code prev w tokens with
  | case1 => simp
  | case2 prev w token next rest step hskips ih =>
    obtain ⟨hchain, _, hlast⟩ := ih
    have hskip : step.skips env = true := hskips
    refine ⟨List.isChain_cons.mpr ⟨fun b _ hnot => ?_, hchain⟩, by simp [step], ?_⟩
    · simp [hskip] at hnot
    · cases hrest : Walk.trace env code (some next) (step.after env) rest with
      | nil => simp [hskip]
      | cons first later =>
        rw [hrest] at hlast
        simpa [List.getLast?_cons_cons] using hlast
  | case3 prev w token rest step hskips ih =>
    obtain ⟨hchain, hfirst, hlast⟩ := ih
    refine ⟨List.isChain_cons.mpr ⟨fun b hb _ => ?_, hchain⟩, by simp [step], ?_⟩
    · obtain ⟨hprev, htokens⟩ := hfirst b hb
      exact Or.inl ⟨htokens.symm, hprev⟩
    · cases hrest : Walk.trace env code (some token) (step.after env) rest with
      | nil =>
        cases rest with
        | nil => simp [step]
        | cons next rest =>
          have hne : Walk.trace env code (some token) (step.after env) (next :: rest) ≠ [] := by
            unfold Walk.trace
            dsimp only
            split <;> simp
          exact absurd hrest hne
      | cons first later =>
        rw [hrest] at hlast
        simpa [List.getLast?_cons_cons] using hlast

/-- In the steps of lines of code, a step that takes no second token with it is followed by the next
one. -/
theorem Walk.isChain_traceLines (env : Environment) (w : Walk) (code : List CodeLine) :
    (w.traceLines env code).IsChain (fun a b => a.skips env = false → a.FollowedBy b) ∧
      ∀ first ∈ (w.traceLines env code).head?, first.prev = none := by
  induction code generalizing w with
  | nil => simp [Walk.traceLines]
  | cons line code ih =>
    obtain ⟨hchain, hfirst, hlast⟩ := Walk.isChain_trace env line none w (tokenize line.text)
    obtain ⟨hlater, hnext⟩ := ih (w.line env line)
    refine ⟨hchain.append hlater fun last hmem first hhead hskips => ?_, fun first hhead => ?_⟩
    · exact Or.inr ⟨hlast last hmem hskips, hnext first hhead⟩
    · rw [Walk.traceLines, List.head?_append] at hhead
      cases hline : (w.trace env line none (tokenize line.text)).head? with
      | none =>
        rw [hline, Option.none_or] at hhead
        exact hnext first hhead
      | some step =>
        rw [hline, Option.some_or] at hhead
        exact Option.some.inj hhead ▸ (hfirst step hline).1

/-- A run goes through the state before each of its steps. -/
theorem isRun_take_drop {env : Environment} {w w' : Walk} {steps : List WalkStep}
    (hrun : IsRun env w steps w') {start : Nat} {step : WalkStep}
    (hstep : steps[start]? = some step) :
    IsRun env w (steps.take start) step.before ∧ IsRun env step.before (steps.drop start) w' := by
  obtain ⟨hlength, rfl⟩ := List.getElem?_eq_some_iff.mp hstep
  rw [← List.take_append_drop start steps] at hrun
  obtain ⟨mid, hfront, hback⟩ := isRun_append.mp hrun
  rw [List.drop_eq_getElem_cons hlength] at hback ⊢
  obtain rfl : (steps.get ⟨start, hlength⟩).before = mid := hback.1
  exact ⟨hfront, hback⟩

/-- The steps between two steps of a run lead from the state before the one to the state before the
other. -/
theorem isRun_between {env : Environment} {w w' : Walk} {steps : List WalkStep}
    (hrun : IsRun env w steps w') {start length : Nat} {first next : WalkStep}
    (hfirst : steps[start]? = some first) (hnext : steps[start + length]? = some next) :
    IsRun env first.before ((steps.drop start).take length) next.before := by
  have hrest := (isRun_take_drop hrun hfirst).2
  exact (isRun_take_drop hrest (by rwa [List.getElem?_drop])).1

/-- The outline of a scope in which a name is declared. -/
def ScopeOutline.addName (outline : ScopeOutline) (name : String) : ScopeOutline :=
  { outline with
    names := if name ∈ outline.names then outline.names else outline.names ++ [name] }

/-- A declared name is one of the names. -/
theorem ScopeOutline.mem_names_addName (outline : ScopeOutline) (name : String) :
    name ∈ (outline.addName name).names := by
  unfold ScopeOutline.addName
  dsimp only
  split
  case isTrue hheld => exact hheld
  case isFalse => exact List.mem_append_right _ (List.mem_singleton_self _)

namespace Walk

/-- A declaration adds a name to the innermost scope. -/
theorem exists_declare_eq (catalog : Catalog) (config : Config) {w : Walk}
    (hs : w.scopes.WellFormed) (v : Variable) :
    ∃ s findings, w.declare catalog config v = { w with scopes := s, findings := findings } ∧
      w.scopes.Keeps s ∧ s.current.outline = w.scopes.current.outline.addName v.name := by
  unfold Walk.declare
  split
  case h_1 existing hfound =>
    have hheld : w.scopes.current.outline.addName v.name = w.scopes.current.outline := by
      have hmem : v.name ∈ w.scopes.current.outline.names :=
        Scope.mem_names_outline.mpr (by simp [hfound])
      simp only [ScopeOutline.addName, hmem, if_true]
    split
    · exact ⟨w.scopes, w.findings, rfl, .refl _, hheld.symm⟩
    · exact ⟨w.scopes, _, rfl, .refl _, hheld.symm⟩
  case h_2 hnew =>
    have hadded : (w.scopes.declare v).current.outline =
        w.scopes.current.outline.addName v.name := by
      have hnot : v.name ∉ w.scopes.current.outline.names := by
        rw [Scope.mem_names_outline, hnew]
        simp
      have hcurrent : (w.scopes.declare v).current = w.scopes.current.declare v :=
        ScopeStack.current_modifyCurrent hs (·.declare v)
      rw [hcurrent, Scope.outline_declare hnew]
      simp only [ScopeOutline.addName, hnot, if_false]
    cases shadowing? catalog config v with
    | none => exact ⟨w.scopes.declare v, w.findings, rfl, .modifyCurrent _ _, hadded⟩
    | some f => exact ⟨w.scopes.declare v, _, rfl, .modifyCurrent _ _, hadded⟩

/-- A use of a name changes no outline. -/
theorem exists_resolve_eq (env : Environment) (w : Walk) (line : Nat) (token : Token) :
    ∃ s findings, w.resolve env line token = { w with scopes := s, findings := findings } ∧
      w.scopes.Keeps s ∧ s.current.outline = w.scopes.current.outline := by
  unfold Walk.resolve
  split
  · exact ⟨w.scopes, w.findings, rfl, .refl _, rfl⟩
  split
  · have hkeeps := ScopeStack.Keeps.use w.scopes token.text
    refine ⟨w.scopes.use token.text, w.findings, rfl, hkeeps, ?_⟩
    rw [← ScopeStack.outlineAt_currentIndex, hkeeps.currentIndex_eq, ScopeStack.outlineAt_use,
      ScopeStack.outlineAt_currentIndex]
  split
  · exact ⟨w.scopes, w.findings, rfl, .refl _, rfl⟩
  · exact ⟨w.scopes, _, rfl, .refl _, rfl⟩

end Walk

namespace LoopScope

/-- A token without its place. -/
abbrev Word := TokenKind × String

/-- An identifier or keyword. -/
def word (text : String) : Word :=
  (.ident, text)

/-- A number. -/
def number (text : String) : Word :=
  (.number, text)

/-- A punctuation mark. -/
def mark (text : String) : Word :=
  (.punct, text)

/-- The step reads a word, and if it does not stand at the end of its line, the word behind it is
the given one. -/
structure IsAt (step : WalkStep) (text : Word) (next : Option Word) : Prop where
  /-- The kind of the token. -/
  kind_eq : step.token.kind = text.1
  /-- The text of the token. -/
  text_eq : step.token.text = text.2
  /-- The word is not the member of a structure. -/
  no_member : step.prev.any LexicalScope.isMemberMark = false
  /-- The start of a loop is not at the end of its line. -/
  for_rest : text = word "for" → step.rest ≠ []
  /-- What stands behind the word. -/
  rest_eq : ∀ other, next = some other → step.rest = [] ∨
    ∃ token rest, step.rest = token :: rest ∧ token.kind = other.1 ∧ token.text = other.2

/-- The steps read the words one after the other. The start of a loop is not at the end of its
line. -/
structure Reads (steps : List WalkStep) (words : List Word) : Prop where
  /-- The tokens are those words. -/
  words_eq : steps.map (fun step => (step.token.kind, step.token.text)) = words
  /-- The tokens follow each other. -/
  followed : steps.IsChain WalkStep.FollowedBy
  /-- No word is the member of a structure. -/
  no_member : ∀ step ∈ steps, step.prev.any LexicalScope.isMemberMark = false
  /-- The starts of loops are not at the end of a line. -/
  for_rest : ∀ step ∈ steps, step.token.text = "for" → step.rest ≠ []

/-- The walk over some words, in whatever lines they stand, leads from one state to another. -/
def WalksOver (env : Environment) (words : List Word) (w w' : Walk) : Prop :=
  ∃ steps, IsRun env w steps w' ∧ Reads steps words

/-- A step takes no second token with it and reads no member of a structure, and it does not start a
loop at the end of a line. -/
def isPlainStep (env : Environment) (step : WalkStep) : Bool :=
  !step.skips env && !step.prev.any LexicalScope.isMemberMark &&
    !(step.token.text == "for" && step.rest.isEmpty)

/-- The words of some steps, when all of them are plain. -/
def plainWords? (env : Environment) (steps : List WalkStep) : Option (List Word) :=
  if steps.all (isPlainStep env) then
    some (steps.map fun step => (step.token.kind, step.token.text))
  else none

/-- A part of the steps of a source, when all of them are plain, goes over its words. -/
theorem walksOver_between {catalog : Catalog} {config : Config} {text : List Char}
    {start length : Nat}
    {first next : WalkStep} (hfirst : (walkTrace catalog config text)[start]? = some first)
    (hnext : (walkTrace catalog config text)[start + length]? = some next) {words : List Word}
    (hwords : plainWords? (environmentOf catalog config text)
      (((walkTrace catalog config text).drop start).take length) = some words) :
    WalksOver (environmentOf catalog config text) words first.before next.before := by
  have hrun := isRun_between (isRun_walkTrace catalog config text) hfirst hnext
  obtain ⟨hplain, hwords⟩ := Option.ite_none_right_eq_some.mp hwords
  have hstep : ∀ step ∈ ((walkTrace catalog config text).drop start).take length,
      step.skips (environmentOf catalog config text) = false ∧
        step.prev.any LexicalScope.isMemberMark = false ∧
        (step.token.text = "for" → step.rest ≠ []) := by
    intro step hmem
    have h := List.all_eq_true.mp hplain step hmem
    simp only [isPlainStep, Bool.and_eq_true, Bool.not_eq_true', Bool.and_eq_false_iff] at h
    refine ⟨h.1.1, h.1.2, fun htext => ?_⟩
    rcases h.2 with hother | hrest
    · simp [htext] at hother
    · simpa using hrest
  have hchain := (Walk.isChain_traceLines (environmentOf catalog config text) {}
    (layout (codeRows text)).code).1
  refine ⟨_, hrun, Option.some.inj hwords, ?_, fun step hmem => (hstep step hmem).2.1,
    fun step hmem => (hstep step hmem).2.2⟩
  refine ((hchain.drop start).take length).imp_of_mem_imp fun a b ha _ hfollowed => ?_
  exact hfollowed (hstep a ha).1

variable {env : Environment} {w w' : Walk} {words more : List Word} {text : Word}

/-- Words are read one part after the other. -/
theorem WalksOver.split (h : WalksOver env (words ++ more) w w') :
    ∃ mid, WalksOver env words w mid ∧ WalksOver env more mid w' := by
  obtain ⟨steps, hrun, hreads⟩ := h
  obtain ⟨front, back, rfl, hfront, hback⟩ := List.map_eq_append_iff.mp hreads.words_eq
  obtain ⟨mid, hfirst, hsecond⟩ := isRun_append.mp hrun
  have hfollowed := List.isChain_append.mp hreads.followed
  refine ⟨mid, ⟨front, hfirst, hfront, hfollowed.1, fun step hstep => ?_, fun step hstep => ?_⟩,
    ⟨back, hsecond, hback, hfollowed.2.1, fun step hstep => ?_, fun step hstep => ?_⟩⟩
  · exact hreads.no_member step (List.mem_append_left _ hstep)
  · exact hreads.for_rest step (List.mem_append_left _ hstep)
  · exact hreads.no_member step (List.mem_append_right _ hstep)
  · exact hreads.for_rest step (List.mem_append_right _ hstep)

/-- The first word is read by a step from the first state. -/
theorem WalksOver.exists_step (h : WalksOver env (text :: words) w w') :
    ∃ step, step.before = w ∧ IsAt step text words.head? ∧
      WalksOver env words (step.after env) w' := by
  obtain ⟨steps, hrun, hreads⟩ := h
  obtain ⟨step, rest, rfl, hword, hrest⟩ := List.map_eq_cons_iff.mp hreads.words_eq
  obtain ⟨hbefore, hrun⟩ := hrun
  obtain ⟨hnext, hfollowed⟩ := List.isChain_cons.mp hreads.followed
  have hkind : step.token.kind = text.1 := congrArg Prod.fst hword
  have htext : step.token.text = text.2 := congrArg Prod.snd hword
  have hmember := List.forall_mem_cons.mp hreads.no_member
  have hfor := List.forall_mem_cons.mp hreads.for_rest
  refine ⟨step, hbefore, ⟨hkind, htext, hmember.1, fun heq => hfor.1 (htext.trans ?_), ?_⟩,
    rest, hrun, hrest, hfollowed, hmember.2, hfor.2⟩
  · rw [heq]
    rfl
  · intro other hother
    rw [← hrest] at hother
    cases rest with
    | nil => cases hother
    | cons next rest =>
      rcases hnext next rfl with ⟨htokens, _⟩ | ⟨hend, _⟩
      · have hword := Option.some.inj hother
        exact Or.inr ⟨next.token, next.rest, htokens, congrArg Prod.fst hword,
          congrArg Prod.snd hword⟩
      · exact Or.inl hend

/-- A walk over no words goes nowhere. -/
theorem WalksOver.eq_of_nil (h : WalksOver env [] w w') : w = w' := by
  obtain ⟨steps, hrun, hreads⟩ := h
  obtain rfl := List.map_eq_nil_iff.mp hreads.words_eq
  exact hrun

/-- A walk keeps the scopes grounded. -/
theorem WalksOver.grounded (h : WalksOver env words w w') (hw : w.scopes.Grounded) :
    w'.scopes.Grounded := by
  obtain ⟨steps, hrun, _⟩ := h
  exact grounded_of_isRun hrun hw

/-- A name without a meaning of its own: none of the words that the walk looks for, no type and no
keyword. -/
structure IsPlainName (env : Environment) (name : String) : Prop where
  /-- It is none of the words that the walk looks for. -/
  not_word : name ∉ LexicalScope.walkWords
  /-- It is no type. -/
  not_type : env.isType name = false
  /-- It is no keyword. -/
  not_keyword : env.catalog.isKeyword name = false

/-- A mark behind a word is no name. -/
theorem IsAt.headIsName {step : WalkStep} {next : String} (h : IsAt step text (some (mark next))) :
    headIsName env.catalog step.rest = false := by
  rcases h.rest_eq _ rfl with hend | ⟨token, rest, hrest, hkind, _⟩
  · simp [BrickLint.headIsName, hend]
  · have hpunct : token.kind = .punct := hkind
    simp [BrickLint.headIsName, hrest, hpunct]

/-- A word is followed by another text than a mark that does not stand behind it. -/
theorem IsAt.headText?_ne {step : WalkStep} {next other : String}
    (h : IsAt step text (some (mark next))) (hne : next ≠ other) :
    headText? step.rest ≠ some other := by
  rcases h.rest_eq _ rfl with hend | ⟨token, rest, hrest, _, htext⟩
  · simp [headText?, hend]
  · have hnext : token.text = next := htext
    simp [headText?, hrest, hnext, hne]

/-- A plain name or a type is read as a name. -/
theorem IsAt.after_eq_name {step : WalkStep} {name : String} {next : Option Word}
    (h : IsAt step (word name) next) (hasm : step.before.scopes.inside .asm = false)
    (hword : name ∉ LexicalScope.walkWords) :
    step.after env =
      step.before.name env step.code step.prev ⟨.ident, name, step.token.column⟩ step.rest := by
  have htoken : step.token = ⟨.ident, name, step.token.column⟩ := by
    rw [← show step.token.kind = .ident from h.kind_eq,
      ← show step.token.text = name from h.text_eq]
  have hkind : step.token.kind = .ident := h.kind_eq
  rw [WalkStep.after, WalkStep.read, hkind]
  dsimp only
  rw [htoken, LexicalScope.ident_eq_name hasm h.no_member hword]

namespace WalksOver

/-- Reading a mark. -/
theorem mark_cons {text : String} (h : WalksOver env (mark text :: words) w w') :
    ∃ line, WalksOver env words (w.punct line text) w' := by
  obtain ⟨step, rfl, hat, hrest⟩ := h.exists_step
  have hkind : step.token.kind = .punct := hat.kind_eq
  have htext : step.token.text = text := hat.text_eq
  refine ⟨step.code.number, ?_⟩
  rwa [WalkStep.after, WalkStep.read, hkind, htext] at hrest

/-- Reading a number. -/
theorem number_cons {text : String} (h : WalksOver env (number text :: words) w w') :
    WalksOver env words w w' := by
  obtain ⟨step, rfl, hat, hrest⟩ := h.exists_step
  have hkind : step.token.kind = .number := hat.kind_eq
  rwa [WalkStep.after, WalkStep.read, hkind] at hrest

/-- Reading the start of a loop. -/
theorem for_cons (h : WalksOver env (word "for" :: mark "(" :: words) w w')
    (hasm : w.scopes.inside .asm = false) :
    WalksOver env (mark "(" :: words)
      { w with pendingHeader := some .forLoop, decl := none } w' := by
  obtain ⟨step, rfl, hat, hrest⟩ := h.exists_step
  have hkind : step.token.kind = .ident := hat.kind_eq
  have htext : step.token.text = "for" := hat.text_eq
  have hnext : headText? step.rest = some "(" := by
    rcases hat.rest_eq _ rfl with hend | ⟨token, rest, hrest, _, hparen⟩
    · exact absurd hend (hat.for_rest rfl)
    · rw [hrest]
      exact congrArg some hparen
  have hprev : (step.prev.any fun p => p.text == "." || p.text == "->") = false := hat.no_member
  have htag : tagKind? "for" = none := rfl
  have hqualifier : "for" ∉ qualifierWords := by decide
  rw [WalkStep.after, WalkStep.read, hkind] at hrest
  simpa [Walk.ident, hasm, hprev, htext, hnext, htag, hqualifier] using hrest

/-- Reading the type of a declaration. -/
theorem int_cons (h : WalksOver env (word "int" :: words) w w')
    (hasm : w.scopes.inside .asm = false) (hdecl : w.decl = none) :
    WalksOver env words w.startDeclaration w' := by
  obtain ⟨step, rfl, hat, hrest⟩ := h.exists_step
  have htype : env.isType "int" = true := by simp [Environment.isType, variableTypes]
  rw [hat.after_eq_name hasm (by decide), Walk.name, if_pos htype, hdecl] at hrest
  simpa using hrest

/-- Reading a name that is declared. -/
theorem declarator_cons {name next : String}
    (h : WalksOver env (word name :: mark next :: words) w w') (hname : IsPlainName env name)
    (hs : w.scopes.WellFormed) (hasm : w.scopes.inside .asm = false) {d : OpenDeclaration}
    (hdecl : w.decl = some d) (hexpect : d.expectName = true) (hnest : d.nest = 0)
    (hnext : next ≠ "(") :
    ∃ s findings, w.scopes.Keeps s ∧
      s.current.outline = w.scopes.current.outline.addName name ∧
      WalksOver env (mark next :: words)
        { w with scopes := s, decl := some d.named, findings := findings } w' := by
  obtain ⟨step, rfl, hat, hrest⟩ := h.exists_step
  have hparen := hat.headText?_ne hnext
  have hplain := @IsAt.headIsName env _ step next hat
  rw [hat.after_eq_name hasm hname.not_word] at hrest
  simp only [Walk.name, hname.not_type, hname.not_keyword, hdecl, hexpect, hnest, beq_self_eq_true,
    Bool.and_self, if_true, Bool.false_eq_true, if_false, Walk.declarator, hparen, hplain] at hrest
  obtain ⟨s, findings, hdeclare, hkeeps, houtline⟩ :=
    Walk.exists_declare_eq env.catalog env.config hs
    { name := name
      line := step.code.number
      column := step.token.column
      path := step.code.path
      isParameter := d.isParameter }
  refine ⟨s, findings, hkeeps, houtline, ?_⟩
  rwa [hdeclare] at hrest

/-- Reading a name outside declarations. -/
theorem use_cons {name next : String} (h : WalksOver env (word name :: mark next :: words) w w')
    (hname : IsPlainName env name) (hasm : w.scopes.inside .asm = false) (hdecl : w.decl = none)
    (hparen : next ≠ "(") (hcolon : next ≠ ":") :
    ∃ s findings, w.scopes.Keeps s ∧ s.current.outline = w.scopes.current.outline ∧
      WalksOver env (mark next :: words) { w with scopes := s, findings := findings } w' := by
  obtain ⟨step, rfl, hat, hrest⟩ := h.exists_step
  have hparen := hat.headText?_ne hparen
  have hcolon := hat.headText?_ne hcolon
  have hplain := @IsAt.headIsName env _ step next hat
  rw [hat.after_eq_name hasm hname.not_word] at hrest
  simp only [Walk.name, hname.not_type, hname.not_keyword, hdecl, Bool.false_eq_true, if_false,
    Walk.reference, hparen, Walk.startsUnknownType, hplain, Bool.false_and, Walk.isLabel,
    beq_eq_false_iff_ne.mpr hcolon, Bool.and_false] at hrest
  obtain ⟨s, findings, hresolve, hkeeps, houtline⟩ := Walk.exists_resolve_eq env step.before
    step.code.number ⟨.ident, name, step.token.column⟩
  refine ⟨s, findings, hkeeps, houtline, ?_⟩
  rwa [hresolve] at hrest

end WalksOver

end LoopScope

end BrickLint
