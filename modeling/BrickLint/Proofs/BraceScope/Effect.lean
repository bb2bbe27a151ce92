import BrickLint.Proofs.BraceScope.OpenScopes
import BrickLint.Proofs.BraceScope.Trace

/-!
# What a step does to declarations and scopes

A token that is no bracket keeps the open declaration and the open scopes, or the declaration that
is open after it has no open brackets. Inside brackets of a declaration the second happens at the
tokens that *interrupt* a declaration: semicolons, type names and loop headers.
-/

namespace BrickLint

/-- How many brackets are open in the open declaration. -/
def Walk.nest (w : Walk) : Nat :=
  w.decl.elim 0 (·.nest)

/-- Whether an identifier that is neither a tag nor a qualifier is read as a type name: one that is
known, or one that is defined elsewhere and stands before a name. -/
def isTypeUse (env : Environment) (prev : Option Token) (token : Token) (rest : List Token) :
    Bool :=
  env.isType token.text || (!env.catalog.isKeyword token.text && headText? rest != some "(" &&
    Walk.startsUnknownType env prev rest)

/-- The token is a semicolon, a type name, a tag that is used as a type, or the start of a loop
header. It ends the open declaration or starts another one, also inside the brackets of an
initializer. -/
def WalkStep.interrupts (env : Environment) (step : WalkStep) : Bool :=
  match step.token.kind with
  | .punct => step.token.text == ";"
  | .number => false
  | .ident =>
    if step.before.scopes.inside .asm then false
    else if step.prev.any fun p => p.text == "." || p.text == "->" then false
    else if step.token.text = "asm" then false
    else
      match tagKind? step.token.text with
      | some _ => headIsIdent step.rest && headText? step.rest.tail != some "\x7b"
      | none =>
        if qualifierWords.contains step.token.text then false
        else if step.token.text = "goto" then false
        else if step.token.text = "for" ∧ headText? step.rest = some "(" then true
        else isTypeUse env step.prev step.token step.rest

namespace Walk

/-- What a token that is no bracket does to a walk, when the text of the token behind it and whether
it interrupts a declaration are given. -/
inductive Effect (next : Option String) (interrupts : Bool) (w w' : Walk) : Prop
  /-- The declaration and the scopes stay open. -/
  | kept (hdecl : w'.decl = w.decl) (hpending : w'.pendingHeader = w.pendingHeader)
      (hscopes : w.scopes.SameBraces w'.scopes) (hquiet : 0 < w.nest → interrupts = false)
  /-- The declaration that is open now has no open brackets, and header scopes may be dropped. -/
  | reset (hnest : w'.nest = 0)
      (hpending : w'.pendingHeader = w.pendingHeader ∨ next = some "(")
      (hscopes : w.scopes.SameBraces w'.scopes ∨
        w'.scopes = w.scopes.popWhile fun scope => scope.awaitingBrace && !scope.headerOpen)
      (hinterrupts : 0 < w.nest → interrupts = true)

variable {w w' : Walk} {next : Option String} {interrupts : Bool}

/-- A token that starts a declaration interrupts. -/
theorem Effect.startDeclaration (w : Walk) (next : Option String) :
    Effect next true w w.startDeclaration :=
  .reset rfl (Or.inl rfl) (Or.inl (.refl _)) fun _ => rfl

/-- The scopes and the declaration stay open at a declared name. -/
theorem declare_keeps (catalog : Catalog) (config : Config) (w : Walk) (v : Variable) :
    (w.declare catalog config v).decl = w.decl ∧
      (w.declare catalog config v).pendingHeader = w.pendingHeader ∧
      w.scopes.SameBraces (w.declare catalog config v).scopes := by
  have hdeclare : w.scopes.SameBraces (w.scopes.declare v) := .modifyAt _ _ fun _ => rfl
  unfold Walk.declare
  split
  · split
    · exact ⟨rfl, rfl, .refl _⟩
    · exact ⟨rfl, rfl, .refl _⟩
  · dsimp only
    cases shadowing? catalog config v with
    | none => exact ⟨rfl, rfl, hdeclare⟩
    | some finding => exact ⟨rfl, rfl, hdeclare⟩

/-- A use of a name keeps the declaration and the scopes. -/
theorem Effect.resolve (env : Environment) (w : Walk) (line : Nat) (token : Token) :
    Effect next false w (w.resolve env line token) := by
  unfold Walk.resolve
  split
  · exact .kept rfl rfl (.refl _) fun _ => rfl
  split
  · exact .kept rfl rfl (.use _ _) fun _ => rfl
  split
  · exact .kept rfl rfl (.refl _) fun _ => rfl
  · exact .kept rfl rfl (.refl _) fun _ => rfl

/-- An identifier outside declarations interrupts when it is the name of an unknown type. -/
theorem Effect.reference (env : Environment) (w : Walk) (line : Nat) (prev : Option Token)
    (token : Token) (rest : List Token) :
    Effect next (headText? rest != some "(" && startsUnknownType env prev rest) w
      (w.reference env line prev token rest) := by
  unfold Walk.reference
  split
  case isTrue hcall =>
    have hquiet : (headText? rest != some "(" && startsUnknownType env prev rest) = false := by
      simp [hcall]
    unfold Walk.noteCall
    split <;> exact .kept rfl rfl (.refl _) fun _ => hquiet
  case isFalse hcall =>
    split
    case isTrue htype =>
      rw [bne_iff_ne.mpr hcall, htype]
      exact .startDeclaration w next
    case isFalse htype =>
      simp only [Bool.not_eq_true] at htype
      rw [htype, Bool.and_false]
      split
      · exact .kept rfl rfl (.refl _) fun _ => rfl
      · exact .resolve env w line token

/-- The next name of a declaration stands outside its brackets. -/
theorem Effect.declarator (env : Environment) {d : OpenDeclaration} (hdecl : w.decl = some d)
    (hnest : d.nest = 0) (code : CodeLine) (token : Token) (rest : List Token) :
    Effect (headText? rest) interrupts w (w.declarator env d code token rest) := by
  have hout : ¬0 < w.nest := by simp [Walk.nest, hdecl, hnest]
  unfold Walk.declarator
  split
  case isTrue hcall =>
    exact .reset rfl (Or.inr hcall) (Or.inl (.refl _)) fun h => absurd h hout
  split
  · exact .kept rfl rfl (.refl _) fun h => absurd h hout
  · obtain ⟨_, hpending, hscopes⟩ := declare_keeps env.catalog env.config w
      ⟨token.text, code.number, token.column, code.path, d.isParameter, false⟩
    exact .reset hnest (Or.inl hpending) (Or.inl hscopes) fun h => absurd h hout

/-- An identifier that is neither a tag nor a qualifier interrupts when it is a type name. -/
theorem Effect.name (env : Environment) (w : Walk) (code : CodeLine) (prev : Option Token)
    (token : Token) (rest : List Token) :
    Effect (headText? rest) (isTypeUse env prev token rest) w
      (w.name env code prev token rest) := by
  unfold Walk.name isTypeUse
  split
  case isTrue htype =>
    rw [htype, Bool.true_or]
    split
    case isTrue hfirst =>
      -- The first type name behind a qualifier or another type name stands outside brackets.
      have hout : ¬0 < w.nest := by
        obtain ⟨d, hdecl, hd⟩ := Option.any_eq_true _ _ |>.mp hfirst
        simp only [Bool.and_eq_true, beq_iff_eq] at hd
        simp [Walk.nest, hdecl, hd.2]
      exact .kept rfl rfl (.refl _) fun h => absurd h hout
    case isFalse => exact .startDeclaration w _
  case isFalse htype =>
    simp only [Bool.not_eq_true] at htype
    rw [htype, Bool.false_or]
    split
    case isTrue hkeyword =>
      refine .kept rfl rfl (.refl _) fun _ => ?_
      simp [hkeyword]
    case isFalse hkeyword =>
      simp only [Bool.not_eq_true] at hkeyword
      rw [hkeyword, Bool.not_false, Bool.true_and]
      split
      case h_1 d hdecl =>
        split
        case isTrue hname =>
          simp only [Bool.and_eq_true, beq_iff_eq] at hname
          exact .declarator env hdecl hname.2 code token rest
        case isFalse => exact .reference env w code.number prev token rest
      case h_2 => exact .reference env w code.number prev token rest

/-- The tag of a structured type interrupts when it is used as a type. -/
theorem Effect.tag (w : Walk) (kind : ScopeKind) (rest : List Token) :
    Effect next (headIsIdent rest && headText? rest.tail != some "\x7b") w (w.tag kind rest) := by
  unfold Walk.tag
  split
  case isTrue htype =>
    rw [htype]
    exact .reset rfl (Or.inl rfl) (Or.inl (.refl _)) fun _ => rfl
  case isFalse htype =>
    exact .kept rfl rfl (.refl _) fun _ => by simpa using htype

end Walk

/-- The effect of an identifier. -/
theorem WalkStep.effect_ident (env : Environment) {step : WalkStep}
    (hkind : step.token.kind = .ident) :
    Walk.Effect (headText? step.rest) (step.interrupts env) step.before (step.after env) := by
  have hkept : Walk.Effect (headText? step.rest) false step.before step.before :=
    .kept rfl rfl (.refl _) fun _ => rfl
  simp only [WalkStep.after, WalkStep.read, WalkStep.interrupts, hkind]
  unfold Walk.ident
  split
  · exact hkept
  split
  · exact hkept
  split
  · exact .kept rfl rfl (.refl _) fun _ => rfl
  cases tagKind? step.token.text with
  | some kind => exact .tag step.before kind step.rest
  | none =>
    dsimp only
    split
    · exact hkept
    split
    · exact hkept
    split
    case isTrue hfor => exact .reset rfl (Or.inr hfor.2) (Or.inl (.refl _)) fun _ => rfl
    case isFalse => exact .name env step.before step.code step.prev step.token step.rest

/-- A token is a bracket if it is a punctuation token with the character of the bracket. -/
theorem Token.mark?_eq_some_iff {token : Token} {mark : BracketMark} :
    token.mark? = some mark ↔ token.kind = .punct ∧ token.text = String.singleton mark.char := by
  constructor
  · intro h
    unfold Token.mark? at h
    split at h
    case h_1 c hkind htext =>
      obtain rfl := BracketMark.ofChar?_eq_some_iff.mp h
      refine ⟨hkind, String.toList_inj.mp ?_⟩
      rw [htext, String.toList_singleton]
    case h_2 => simp at h
  · rintro ⟨hkind, htext⟩
    simp [Token.mark?, hkind, htext, BracketMark.ofChar?_eq_some_iff]

/-- Punctuation that is no bracket is none of the brackets. -/
theorem Token.ne_of_mark?_eq_none {token : Token} (hkind : token.kind = .punct)
    (hmark : token.mark? = none) (mark : BracketMark) :
    token.text ≠ String.singleton mark.char := by
  intro htext
  rw [Token.mark?_eq_some_iff.mpr ⟨hkind, htext⟩] at hmark
  cases hmark

/-- Punctuation other than brackets concerns the open declaration only, except for the end of a
statement. -/
theorem Walk.punct_of_ne_mark (w : Walk) (line : Nat) {text : String}
    (hne : ∀ mark : BracketMark, text ≠ String.singleton mark.char) :
    w.punct line text =
      if text = ";" then w.endStatement
      else if text = "," then { w with decl := w.decl.map (·.comma) }
      else if text = "=" then { w with decl := w.decl.bind (·.equals) }
      else w := by
  unfold Walk.punct
  rw [if_neg (show text ≠ "(" from hne (.opens .paren)),
    if_neg (show text ≠ ")" from hne (.closes .paren)),
    if_neg (show text ≠ "[" from hne (.opens .square)),
    if_neg (show text ≠ "]" from hne (.closes .square)),
    if_neg (show text ≠ "\x7b" from hne (.opens .brace)),
    if_neg (show text ≠ "\x7d" from hne (.closes .brace))]

/-- The effect of punctuation other than brackets. -/
theorem WalkStep.effect_punct (env : Environment) {step : WalkStep}
    (hkind : step.token.kind = .punct) (hmark : step.token.mark? = none) :
    Walk.Effect (headText? step.rest) (step.interrupts env) step.before (step.after env) := by
  have hne := Token.ne_of_mark?_eq_none hkind hmark
  have hout : ∀ d : OpenDeclaration, step.before.decl = some d → d.nest = 0 →
      ¬0 < step.before.nest := by
    intro d hdecl hnest
    simp [Walk.nest, hdecl, hnest]
  simp only [WalkStep.after, WalkStep.read, WalkStep.interrupts, hkind,
    Walk.punct_of_ne_mark _ _ hne]
  split
  case isTrue htext =>
    exact .reset rfl (Or.inl rfl) (Or.inr rfl) fun _ => by simp [htext]
  case isFalse hend =>
    have hquiet : (step.token.text == ";") = false := beq_eq_false_iff_ne.mpr hend
    rw [hquiet]
    split
    · -- A comma starts the next declarator outside brackets only.
      cases hdecl : step.before.decl with
      | none => exact .kept hdecl.symm rfl (.refl _) fun _ => rfl
      | some d =>
        by_cases hnest : d.nest = 0
        · refine .reset ?_ (Or.inl rfl) (Or.inl (.refl _)) fun h => absurd h (hout d hdecl hnest)
          simp [Walk.nest, OpenDeclaration.comma, hnest]
        · refine .kept ?_ rfl (.refl _) fun _ => rfl
          simp [OpenDeclaration.comma, hnest, hdecl]
    split
    · -- An equals sign starts an initializer outside brackets only.
      cases hdecl : step.before.decl with
      | none => exact .kept hdecl.symm rfl (.refl _) fun _ => rfl
      | some d =>
        by_cases hnest : d.nest = 0
        · refine .reset ?_ (Or.inl rfl) (Or.inl (.refl _)) fun h => absurd h (hout d hdecl hnest)
          by_cases hname : d.expectName = true
          · simp [Walk.nest, OpenDeclaration.equals, hnest, hname]
          · simp [Walk.nest, OpenDeclaration.equals, hnest, hname]
        · refine .kept ?_ rfl (.refl _) fun _ => rfl
          simp [OpenDeclaration.equals, hnest, hdecl]
    · exact .kept rfl rfl (.refl _) fun _ => rfl

/-- The effect of a token that is no bracket. -/
theorem WalkStep.effect (env : Environment) {step : WalkStep} (hmark : step.token.mark? = none) :
    Walk.Effect (headText? step.rest) (step.interrupts env) step.before (step.after env) := by
  cases hkind : step.token.kind with
  | punct => exact effect_punct env hkind hmark
  | ident => exact effect_ident env hkind
  | number =>
    simp only [WalkStep.after, WalkStep.read, WalkStep.interrupts, hkind]
    exact .kept rfl rfl (.refl _) fun _ => rfl

namespace Walk

/-- Reads a bracket. -/
def readMark (w : Walk) (line : Nat) : BracketMark → Walk
  | .opens .paren => w.openParen line
  | .closes .paren => w.closeParen
  | .opens .square => { w with decl := w.decl.map (·.openBracket) }
  | .closes .square => { w with decl := w.decl.map (·.closeBracket) }
  | .opens .brace => w.openBrace line
  | .closes .brace => w.closeBrace

/-- A bracket is read as punctuation. -/
theorem punct_mark (w : Walk) (line : Nat) (mark : BracketMark) :
    w.punct line (String.singleton mark.char) = w.readMark line mark := by
  rcases mark with (_ | _ | _) | (_ | _ | _) <;> rfl

end Walk

/-- The state after a bracket. -/
theorem WalkStep.after_of_mark (env : Environment) {step : WalkStep} {mark : BracketMark}
    (hmark : step.token.mark? = some mark) :
    step.after env = step.before.readMark step.code.number mark := by
  obtain ⟨hkind, htext⟩ := Token.mark?_eq_some_iff.mp hmark
  rw [← Walk.punct_mark, ← htext]
  simp only [WalkStep.after, WalkStep.read, hkind]

end BrickLint
