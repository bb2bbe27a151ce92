import BrickLint.Proofs.BraceScope.Effect

/-!
# What a step keeps

Three things are followed through the steps of a walk: how many brackets are open in the open
declaration, whether the walk is inside an initializer, and what the open scopes rest on. Only the
braces of blocks change the last beyond header scopes that wait.
-/

namespace BrickLint

namespace Walk

variable {w w' : Walk} {next : Option String} {interrupts : Bool}

/-- A token that is no bracket opens none. -/
theorem Effect.nest_le (h : Effect next interrupts w w') : w'.nest ≤ w.nest := by
  cases h with
  | kept hdecl => rw [Walk.nest, hdecl, ← Walk.nest]
  | reset hnest => rw [hnest]; exact Nat.zero_le _

/-- No declaration with open brackets is left by a token that interrupts. -/
theorem Effect.nest_eq_zero (h : Effect next true w w') (hnest : 0 < w.nest) : w'.nest = 0 := by
  cases h with
  | kept _ _ _ hquiet => exact absurd (hquiet hnest) (by simp)
  | reset hreset => exact hreset

/-- The end of a block leaves no open brackets. -/
theorem nest_closeBlock (w : Walk) : w.closeBlock.nest = 0 := by
  unfold closeBlock nest
  dsimp only
  split <;> rfl

/-- The start of a block leaves no open declaration. -/
theorem nest_openBlock (w : Walk) (line : Nat) (hdecl : w.decl = none) :
    (openBrace.openBlock line w).nest = 0 := by
  unfold openBrace.openBlock
  split <;> simp [nest, hdecl]

/-- An opening brace that does not stand in an initializer opens a block. -/
theorem openBrace_eq_openBlock (w : Walk) (line : Nat)
    (hinit : w.decl.any (·.inInitializer) = false) :
    w.openBrace line = openBrace.openBlock line { w with decl := none } := by
  unfold Walk.openBrace
  split
  case h_1 d hdecl =>
    have hd : d.inInitializer = false := by simpa [hdecl] using hinit
    simp [hd]
  case h_2 hdecl => rw [← hdecl]

/-- An opening brace opens a bracket of an initializer, or a block. -/
theorem openBrace_cases (w : Walk) (line : Nat) :
    (∃ d, w.decl = some d ∧ w.openBrace line = { w with decl := some d.openBracket }) ∨
      w.openBrace line = openBrace.openBlock line { w with decl := none } := by
  by_cases hinit : w.decl.any (·.inInitializer) = true
  · obtain ⟨d, hdecl, hd⟩ := Option.any_eq_true _ _ |>.mp hinit
    exact Or.inl ⟨d, hdecl, by simp [Walk.openBrace, hdecl, hd]⟩
  · rw [Bool.not_eq_true] at hinit
    exact Or.inr (openBrace_eq_openBlock w line hinit)

/-- A closing brace closes a bracket of an initializer, or a block. -/
theorem closeBrace_cases (w : Walk) :
    (∃ d, w.decl = some d ∧ w.closeBrace = { w with decl := some d.closeBracket }) ∨
      w.closeBrace = w.closeBlock := by
  unfold Walk.closeBrace
  split
  case h_1 d hdecl =>
    split
    · exact Or.inl ⟨d, hdecl, rfl⟩
    · exact Or.inr rfl
  case h_2 => exact Or.inr rfl

/-- An opening bracket opens at most one bracket of the declaration. -/
theorem nest_readMark_opens (w : Walk) (line : Nat) (bracket : Bracket) :
    (w.readMark line (.opens bracket)).nest ≤ w.nest + 1 := by
  have hmap : (w.decl.map (·.openBracket)).elim 0 (·.nest) ≤ w.nest + 1 := by
    cases hdecl : w.decl with
    | none => exact Nat.zero_le _
    | some d => simp [nest, hdecl, OpenDeclaration.openBracket]
  cases bracket with
  | paren =>
    rw [readMark, openParen]
    split
    · exact Nat.le_succ _
    · exact hmap
  | square => exact hmap
  | brace =>
    rw [readMark]
    rcases openBrace_cases w line with ⟨d, hdecl, hread⟩ | hread
    · simp [hread, nest, hdecl, OpenDeclaration.openBracket]
    · rw [hread, nest_openBlock _ _ rfl]
      exact Nat.zero_le _

/-- A closing bracket closes a bracket of the declaration, if one is open. -/
theorem nest_readMark_closes (w : Walk) (line : Nat) (bracket : Bracket) :
    (w.readMark line (.closes bracket)).nest ≤ w.nest - 1 := by
  cases bracket with
  | paren =>
    cases hdecl : w.decl with
    | none => simp [readMark, Walk.closeParen, nest, hdecl]
    | some d =>
      by_cases hnest : 0 < d.nest
      · simp [readMark, Walk.closeParen, nest, hdecl, OpenDeclaration.closeParen, hnest,
          OpenDeclaration.closeBracket]
      · simp [readMark, Walk.closeParen, nest, hdecl, OpenDeclaration.closeParen, hnest]
  | square =>
    cases hdecl : w.decl with
    | none => simp [readMark, nest, hdecl]
    | some d => simp [readMark, nest, hdecl, OpenDeclaration.closeBracket]
  | brace =>
    rw [readMark]
    rcases closeBrace_cases w with ⟨d, hdecl, hread⟩ | hread
    · simp [hread, nest, hdecl, OpenDeclaration.closeBracket]
    · rw [hread, nest_closeBlock]
      exact Nat.zero_le _

/-- A closing brace closes a block when no bracket of a declaration is open. -/
theorem closeBrace_eq_closeBlock (hnest : w.nest = 0) : w.closeBrace = w.closeBlock := by
  unfold Walk.closeBrace
  split
  case h_1 d hdecl =>
    have hd : d.nest = 0 := by simpa [nest, hdecl] using hnest
    simp [hd]
  case h_2 => rfl

/-- An opening parenthesis opens a header scope, or nothing. -/
theorem scopes_openParen (w : Walk) (line : Nat) :
    (w.openParen line).scopes = w.scopes ∨
      ∃ kind, (w.openParen line).scopes = w.scopes.push kind line (some w.parens) := by
  unfold Walk.openParen
  split
  case h_1 kind _ => exact Or.inr ⟨kind, rfl⟩
  case h_2 => exact Or.inl rfl

/-- A closing parenthesis closes no scope. -/
theorem sameBraces_closeParen (w : Walk) : w.scopes.SameBraces w.closeParen.scopes := by
  refine .modifyAt _ _ fun scope => ?_
  unfold closeHeader
  split <;> rfl

/-- The walk is inside an initializer, with a number of open brackets in its declaration, and no
header is announced. -/
structure InInitializer (w : Walk) (depth : Nat) : Prop where
  /-- The declaration has an initializer. -/
  decl : ∃ d, w.decl = some d ∧ d.inInitializer = true ∧ d.nest = depth
  /-- The next parenthesis opens no header. -/
  pending : w.pendingHeader = none

/-- Inside the brackets of an initializer, a token that does not interrupt keeps declaration and
scopes. -/
theorem InInitializer.effect {depth : Nat} (hw : w.InInitializer (depth + 1))
    (h : Effect next false w w') :
    w'.InInitializer (depth + 1) ∧ w.scopes.SameBraces w'.scopes := by
  obtain ⟨⟨d, hdecl, hinit, hnest⟩, hpending⟩ := hw
  have hopen : 0 < w.nest := by simp [nest, hdecl, hnest]
  cases h with
  | kept hkept hheader hscopes =>
    exact ⟨⟨⟨d, hkept.trans hdecl, hinit, hnest⟩, hheader.trans hpending⟩, hscopes⟩
  | reset _ _ _ hinterrupts => exact absurd (hinterrupts hopen) (by simp)

/-- An opening bracket inside an initializer opens no scope. -/
theorem InInitializer.opens {depth : Nat} (hw : w.InInitializer depth) (line : Nat)
    (bracket : Bracket) :
    (w.readMark line (.opens bracket)).InInitializer (depth + 1) ∧
      w.scopes.SameBraces (w.readMark line (.opens bracket)).scopes := by
  obtain ⟨⟨d, hdecl, hinit, hnest⟩, hpending⟩ := hw
  have hopened : ∃ d', some d.openBracket = some d' ∧ d'.inInitializer = true ∧
      d'.nest = depth + 1 := ⟨_, rfl, hinit, congrArg (· + 1) hnest⟩
  cases bracket with
  | paren =>
    simp only [readMark, openParen, hpending, hdecl]
    exact ⟨⟨hopened, rfl⟩, .refl _⟩
  | square =>
    simp only [readMark, hdecl]
    exact ⟨⟨hopened, hpending⟩, .refl _⟩
  | brace =>
    simp only [readMark, openBrace, hdecl, hinit, if_true]
    exact ⟨⟨hopened, hpending⟩, .refl _⟩

/-- A closing bracket inside an initializer closes no scope. -/
theorem InInitializer.closes {depth : Nat} (hw : w.InInitializer (depth + 1)) (line : Nat)
    (bracket : Bracket) :
    (w.readMark line (.closes bracket)).InInitializer depth ∧
      w.scopes.SameBraces (w.readMark line (.closes bracket)).scopes := by
  obtain ⟨⟨d, hdecl, hinit, hnest⟩, hpending⟩ := hw
  have hopen : 0 < d.nest := by omega
  have hclosed : ∃ d', some d.closeBracket = some d' ∧ d'.inInitializer = true ∧
      d'.nest = depth := ⟨_, rfl, hinit, by simp [OpenDeclaration.closeBracket, hnest]⟩
  cases bracket with
  | paren =>
    simp only [readMark, closeParen, hdecl, Option.bind_some, OpenDeclaration.closeParen, hopen,
      if_true]
    exact ⟨⟨hclosed, hpending⟩, sameBraces_closeParen w⟩
  | square =>
    simp only [readMark, hdecl]
    exact ⟨⟨hclosed, hpending⟩, .refl _⟩
  | brace =>
    simp only [readMark, closeBrace, hdecl, hinit, hopen, decide_true, Bool.and_self, if_true]
    exact ⟨⟨hclosed, hpending⟩, .refl _⟩

/-- A token that is no bracket keeps the scopes grounded. -/
theorem Effect.grounded (h : Effect next interrupts w w') (hw : w.scopes.Grounded) :
    w'.scopes.Grounded := by
  cases h with
  | kept _ _ hscopes => exact hscopes.grounded hw
  | reset _ _ hscopes =>
    rcases hscopes with hscopes | hscopes
    · exact hscopes.grounded hw
    · exact hscopes ▸ hw.popWhile _

/-- A token that is no bracket changes nothing below the header scopes that wait. -/
theorem Effect.restsOn (h : Effect next interrupts w w') {index : Nat}
    {below : List (Nat × Bool)} (hw : w.scopes.RestsOn ((index, false) :: below)) :
    w'.scopes.RestsOn ((index, false) :: below) := by
  cases h with
  | kept _ _ hscopes => exact hscopes.restsOn hw
  | reset _ _ hscopes =>
    rcases hscopes with hscopes | hscopes
    · exact hscopes.restsOn hw
    · rw [hscopes]
      exact hw.popWhile fun scope hscope => (Bool.and_eq_true_iff.mp hscope).1

/-- The start of a block binds its brace to a waiting header scope, or opens a scope. -/
theorem scopes_openBlock (w : Walk) (line : Nat) :
    (w.scopes.current.awaitingBrace = true ∧
      (openBrace.openBlock line w).scopes = w.scopes.bindBrace) ∨
    ∃ kind, (openBrace.openBlock line w).scopes = w.scopes.push kind line := by
  unfold openBrace.openBlock
  split
  case isTrue hwaits => exact Or.inl ⟨(Bool.and_eq_true_iff.mp hwaits).1, rfl⟩
  case isFalse => exact Or.inr ⟨_, rfl⟩

/-- A block rests on the scopes that were open before it, without the header scope that it is the
body of. -/
theorem openScopes_openBlock (hw : w.scopes.WellFormed) (line : Nat) :
    ∃ index below, (openBrace.openBlock line w).scopes.openScopes = (index, false) :: below ∧
      (w.scopes.openScopes = below ∨ w.scopes.openScopes = (index, true) :: below) := by
  rcases scopes_openBlock w line with ⟨hwaits, hscopes⟩ | ⟨kind, hscopes⟩
  · obtain ⟨below, hopen⟩ := ScopeStack.openScopes_eq_cons hw
    rw [hwaits] at hopen
    exact ⟨_, below, by rw [hscopes, ScopeStack.openScopes_bindBrace hw hopen], Or.inr hopen⟩
  · exact ⟨_, _, by rw [hscopes, ScopeStack.openScopes_push hw]; rfl, Or.inl rfl⟩

/-- A bracket keeps the scopes grounded. -/
theorem grounded_readMark (hw : w.scopes.Grounded) (line : Nat) (mark : BracketMark) :
    (w.readMark line mark).scopes.Grounded := by
  cases mark with
  | opens bracket =>
    cases bracket with
    | paren =>
      rcases scopes_openParen w line with hscopes | ⟨kind, hscopes⟩
      · exact hscopes ▸ hw
      · rw [readMark, hscopes]
        exact hw.push _ _ _
    | square => exact hw
    | brace =>
      rw [readMark]
      rcases openBrace_cases w line with ⟨_, _, hread⟩ | hread
      · exact hread ▸ hw
      · rw [hread]
        rcases scopes_openBlock { w with decl := none } line with ⟨hwaits, hscopes⟩ | ⟨_, hscopes⟩
        · exact hscopes ▸ hw.bindBrace hwaits
        · exact hscopes ▸ hw.push _ _ _
  | closes bracket =>
    cases bracket with
    | paren => exact (sameBraces_closeParen w).grounded hw
    | square => exact hw
    | brace =>
      rw [readMark]
      rcases closeBrace_cases w with ⟨_, _, hread⟩ | hread
      · exact hread ▸ hw
      · rw [hread]
        exact (hw.popWhile _).pop

/-- Parentheses and square brackets change nothing below the header scopes that wait. -/
theorem restsOn_readMark (hw : w.scopes.Grounded) {base : List (Nat × Bool)}
    (hrests : w.scopes.RestsOn base) (line : Nat) {bracket : Bracket}
    (hbracket : bracket ≠ .brace) :
    (w.readMark line (.opens bracket)).scopes.RestsOn base ∧
      (w.readMark line (.closes bracket)).scopes.RestsOn base := by
  cases bracket with
  | paren =>
    refine ⟨?_, (sameBraces_closeParen w).restsOn hrests⟩
    rcases scopes_openParen w line with hscopes | ⟨kind, hscopes⟩
    · exact hscopes ▸ hrests
    · obtain ⟨waiting, hopen⟩ := hrests
      refine ⟨w.scopes.arena.length :: waiting, ?_⟩
      rw [readMark, hscopes, ScopeStack.openScopes_push hw.toWellFormed, hopen]
      rfl
  | square => exact ⟨hrests, hrests⟩
  | brace => exact absurd rfl hbracket

end Walk

end BrickLint
