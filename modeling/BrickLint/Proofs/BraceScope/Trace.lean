import BrickLint.Proofs.Anchor.Line
import BrickLint.Proofs.Bracket.Nesting
import BrickLint.Proofs.DeclarationReport
import Mathlib.Data.List.TakeWhile

/-!
# The steps of a walk

A walk over the code of a source is a list of steps, one for each token that is read, each with the
state that it starts from. When the source has neither directives nor continued lines, the brackets
that the steps read are the brackets of the text.
-/

namespace BrickLint

open Text

/-- A token that is read, with its surroundings and the state of the walk before it. -/
structure WalkStep where
  /-- The line of the token. -/
  code : CodeLine
  /-- The token that was read before it in the same line. -/
  prev : Option Token
  /-- The token. -/
  token : Token
  /-- The tokens behind it in the same line. -/
  rest : List Token
  /-- The state before the token is read. -/
  before : Walk

/-- The bracket that a token is. -/
def Token.mark? (token : Token) : Option BracketMark :=
  match token.kind, token.text.toList with
  | .punct, [c] => BracketMark.ofChar? c
  | _, _ => none

namespace WalkStep

/-- The state after the token has been read, and whether the next token has been read with it. -/
def read (env : Environment) (step : WalkStep) : Walk × Bool :=
  match step.token.kind with
  | .punct => (step.before.punct step.code.number step.token.text, false)
  | .number => (step.before, false)
  | .ident => step.before.ident env step.code step.prev step.token step.rest

/-- The state after the token has been read. -/
def after (env : Environment) (step : WalkStep) : Walk :=
  (step.read env).1

/-- Whether the next token has been read with this one. -/
def skips (env : Environment) (step : WalkStep) : Bool :=
  (step.read env).2

/-- The brackets that some steps read, in order. -/
def marks (steps : List WalkStep) : List BracketMark :=
  steps.filterMap (·.token.mark?)

end WalkStep

/-- The steps of a walk over the tokens of a line. -/
def Walk.trace (env : Environment) (code : CodeLine) (prev : Option Token) (w : Walk) :
    List Token → List WalkStep
  | [] => []
  | token :: rest =>
    let step : WalkStep := ⟨code, prev, token, rest, w⟩
    match step.skips env, rest with
    | true, next :: rest => step :: trace env code (some next) (step.after env) rest
    | _, rest => step :: trace env code (some token) (step.after env) rest

/-- The steps of a walk over lines of code. -/
def Walk.traceLines (env : Environment) (w : Walk) : List CodeLine → List WalkStep
  | [] => []
  | code :: rest =>
    w.trace env code none (tokenize code.text) ++ (w.line env code).traceLines env rest

/-- The steps of the walk over the code of a scrubbed source. -/
def walkTrace (catalog : Catalog) (config : Config) (text : List Char) : List WalkStep :=
  Walk.traceLines (environmentOf catalog config text) {} (layout (codeRows text)).code

/-- The steps lead from one state to another: each starts where the one before it ends. -/
def IsRun (env : Environment) : Walk → List WalkStep → Walk → Prop
  | w, [], w' => w = w'
  | w, step :: steps, w' => step.before = w ∧ IsRun env (step.after env) steps w'

/-- Runs follow each other. -/
theorem isRun_append {env : Environment} {w w' : Walk} {steps more : List WalkStep} :
    IsRun env w (steps ++ more) w' ↔ ∃ mid, IsRun env w steps mid ∧ IsRun env mid more w' := by
  induction steps generalizing w with
  | nil => simp [IsRun]
  | cons step steps ih => simp [IsRun, ih, and_assoc]

/-- The steps of a line lead to the state after the line. -/
theorem isRun_trace (env : Environment) (code : CodeLine) (prev : Option Token) (w : Walk)
    (tokens : List Token) :
    IsRun env w (w.trace env code prev tokens) (w.tokens env code prev tokens) := by
  fun_induction Walk.tokens env code prev w tokens with
  | case1 => rfl
  | case2 prev w token rest hkind ih =>
    simpa [Walk.trace, IsRun, WalkStep.skips, WalkStep.after, WalkStep.read, hkind] using ih
  | case3 prev w token rest hkind ih =>
    simpa [Walk.trace, IsRun, WalkStep.skips, WalkStep.after, WalkStep.read, hkind] using ih
  | case4 prev w token hkind after next rest hident ih =>
    simpa [Walk.trace, IsRun, WalkStep.skips, WalkStep.after, WalkStep.read, hkind, hident] using ih
  | case5 prev w token hkind after hident =>
    simp [Walk.trace, IsRun, WalkStep.skips, WalkStep.after, WalkStep.read, hkind, hident]
  | case6 prev w token hkind after rest hident ih =>
    simpa [Walk.trace, IsRun, WalkStep.skips, WalkStep.after, WalkStep.read, hkind, hident] using ih

/-- The steps of lines of code lead to the state after these lines. -/
theorem isRun_traceLines (env : Environment) (w : Walk) (code : List CodeLine) :
    IsRun env w (w.traceLines env code) (code.foldl (Walk.line env) w) := by
  induction code generalizing w with
  | nil => rfl
  | cons line code ih =>
    exact isRun_append.mpr ⟨_, isRun_trace env line none w (tokenize line.text), ih _⟩

/-- The steps of a source lead from the start to the state that the check of its declarations ends
with. -/
theorem isRun_walkTrace (catalog : Catalog) (config : Config) (text : List Char) :
    IsRun (environmentOf catalog config text) {} (walkTrace catalog config text)
      (checkDeclarations catalog config text).walk :=
  isRun_traceLines _ _ _

/-- The steps of a line read tokens of the line, in order. -/
theorem tokens_trace (env : Environment) (code : CodeLine) (prev : Option Token) (w : Walk)
    (tokens : List Token) :
    ((w.trace env code prev tokens).map (·.token)).Sublist tokens ∧
      ∀ step ∈ w.trace env code prev tokens, step.code = code := by
  fun_induction Walk.trace env code prev w tokens with
  | case1 => simp
  | case2 prev w token next rest step _ ih =>
    obtain ⟨hsub, hcode⟩ := ih
    exact ⟨(hsub.cons next).cons_cons token, by simpa [step] using hcode⟩
  | case3 prev w token rest step _ ih =>
    obtain ⟨hsub, hcode⟩ := ih
    exact ⟨hsub.cons_cons token, by simpa [step] using hcode⟩

/-- The steps of lines of code are in these lines. -/
theorem code_of_mem_traceLines {env : Environment} {w : Walk} {code : List CodeLine}
    {step : WalkStep} (h : step ∈ w.traceLines env code) : step.code ∈ code := by
  induction code generalizing w with
  | nil => simp [Walk.traceLines] at h
  | cons line code ih =>
    rcases List.mem_append.mp h with hline | hlater
    · rw [(tokens_trace env line none w _).2 step hline]
      exact List.mem_cons_self
    · exact List.mem_cons_of_mem _ (ih hlater)

/-- A character of a class that holds no brackets is no bracket. -/
theorem BracketMark.ofChar?_eq_none {p : Char → Bool}
    (hp : ∀ mark : BracketMark, p mark.char = false) {c : Char} (hc : p c = true) :
    BracketMark.ofChar? c = none := by
  rw [Option.eq_none_iff_forall_ne_some]
  intro mark hmark
  rw [BracketMark.ofChar?_eq_some_iff.mp hmark, hp mark] at hc
  exact Bool.false_ne_true hc

/-- A text of a class of characters that holds no brackets has no brackets. -/
theorem bracketMarks_eq_nil {p : Char → Bool} (hp : ∀ mark : BracketMark, p mark.char = false)
    {text : List Char} (htext : ∀ c ∈ text, p c = true) : bracketMarks text = [] :=
  List.filterMap_eq_nil_iff.mpr fun c hc => BracketMark.ofChar?_eq_none hp (htext c hc)

/-- No bracket is blank. -/
theorem BracketMark.isBlank_char (mark : BracketMark) : isBlank mark.char = false := by
  rcases mark with (_ | _ | _) | (_ | _ | _) <;> decide

/-- No bracket continues an identifier. -/
theorem BracketMark.isIdentChar_char (mark : BracketMark) : isIdentChar mark.char = false := by
  rcases mark with (_ | _ | _) | (_ | _ | _) <;> decide

/-- No bracket continues a number. -/
theorem BracketMark.isNumberChar_char (mark : BracketMark) : isNumberChar mark.char = false := by
  rcases mark with (_ | _ | _) | (_ | _ | _) <;> decide

/-- No bracket is a digit. -/
theorem BracketMark.isDigitChar_char (mark : BracketMark) : isDigitChar mark.char = false := by
  rcases mark with (_ | _ | _) | (_ | _ | _) <;> decide

/-- The token that starts with a character is the bracket that the character is. -/
theorem mark?_lexeme (c : Char) (cs : List Char) (column : Nat) :
    Token.mark? ⟨(lexeme c cs).1, String.ofList (lexeme c cs).2, column⟩ =
      BracketMark.ofChar? c := by
  unfold lexeme
  split
  case isTrue hstart =>
    have hc := BracketMark.ofChar?_eq_none BracketMark.isIdentChar_char
      (isIdentChar_of_isIdentStart hstart)
    simp [Token.mark?, hc]
  split
  case isTrue hdigit =>
    have hc := BracketMark.ofChar?_eq_none BracketMark.isDigitChar_char hdigit
    simp [Token.mark?, hc]
  split
  case isTrue harrow =>
    obtain ⟨rfl, _⟩ := harrow
    simp only [Token.mark?, String.toList_ofList]
    rfl
  case isFalse => simp [Token.mark?]

/-- Behind its first character, a token holds no brackets. -/
theorem bracketMarks_take_lexeme (c : Char) (cs : List Char) :
    bracketMarks (cs.take ((lexeme c cs).2.length - 1)) = [] := by
  have hrun : ∀ p : Char → Bool, (∀ mark : BracketMark, p mark.char = false) →
      bracketMarks (cs.take (cs.takeWhile p).length) = [] := by
    intro p hp
    rw [← List.prefix_iff_eq_take.mp (List.takeWhile_prefix p)]
    exact bracketMarks_eq_nil hp fun d hd => List.all_eq_true.mp List.all_takeWhile d hd
  unfold lexeme
  split
  · simpa using hrun _ BracketMark.isIdentChar_char
  split
  · simpa using hrun _ BracketMark.isNumberChar_char
  split
  case isTrue harrow =>
    obtain ⟨rest, rfl⟩ := List.head?_eq_some_iff.mp harrow.2
    rfl
  case isFalse => rfl

/-- The tokens of a text hold its brackets, when none is passed over with the token before. -/
theorem marks_tokensFrom (skip column : Nat) (cs : List Char)
    (hskip : bracketMarks (cs.take skip) = []) :
    (tokensFrom skip column cs).filterMap Token.mark? = bracketMarks cs := by
  induction cs generalizing skip column with
  | nil => rfl
  | cons c cs ih =>
    have hsplit : bracketMarks (c :: cs) = bracketMarks [c] ++ bracketMarks cs :=
      bracketMarks_append [c] cs
    cases skip with
    | succ remaining =>
      have hpassed : bracketMarks [c] ++ bracketMarks (cs.take remaining) = [] := by
        rw [← bracketMarks_append]
        simpa using hskip
      obtain ⟨hc, hrest⟩ := List.append_eq_nil_iff.mp hpassed
      rw [hsplit, hc, List.nil_append, ← ih remaining (column + 1) hrest]
      rfl
    | zero =>
      by_cases hblank : isBlank c = true
      · have hc : bracketMarks [c] = [] :=
          bracketMarks_eq_nil BracketMark.isBlank_char (by simpa using hblank)
        rw [hsplit, hc, List.nil_append, ← ih 0 (column + 1) rfl]
        simp [tokensFrom, hblank]
      · have hrest := ih ((lexeme c cs).2.length - 1) (column + 1) (bracketMarks_take_lexeme c cs)
        simp only [tokensFrom, hblank, Bool.false_eq_true, if_false, List.filterMap_cons,
          mark?_lexeme, hrest]
        simp only [bracketMarks, List.filterMap_cons]

/-- The next token is read together with this one only if it is an identifier. -/
theorem headIsIdent_of_skips {env : Environment} {step : WalkStep}
    (h : step.skips env = true) : headIsIdent step.rest = true := by
  unfold WalkStep.skips WalkStep.read at h
  split at h
  · simp at h
  · simp at h
  · unfold Walk.ident at h
    split at h
    · simp at h
    split at h
    · simp at h
    split at h
    · simp at h
    split at h
    · exact h
    split at h
    · simp at h
    split at h
    · exact h
    split at h <;> simp at h

/-- The steps of a line read the brackets of its tokens. -/
theorem marks_trace (env : Environment) (code : CodeLine) (prev : Option Token) (w : Walk)
    (tokens : List Token) :
    WalkStep.marks (w.trace env code prev tokens) = tokens.filterMap Token.mark? := by
  fun_induction Walk.trace env code prev w tokens with
  | case1 => rfl
  | case2 prev w token next rest step hskips ih =>
    have hident : next.kind = .ident := by
      simpa [headIsIdent, step] using headIsIdent_of_skips hskips
    have hnext : next.mark? = none := by simp [Token.mark?, hident]
    simp only [WalkStep.marks, List.filterMap_cons, hnext] at ih ⊢
    rw [ih]
  | case3 prev w token rest step _ ih =>
    simp only [WalkStep.marks, List.filterMap_cons] at ih ⊢
    rw [ih]

/-- The brackets of a text are those of its rows. -/
theorem flatMap_bracketMarks_rows (text : List Char) :
    (rows text).flatMap bracketMarks = bracketMarks text := by
  induction text with
  | nil => rfl
  | cons c cs ih =>
    by_cases hc : c = '\n'
    · subst hc
      rw [rows_newline, List.flatMap_cons, ih]
      rfl
    · obtain ⟨row, rest, hrows⟩ := exists_rows_eq_cons cs
      rw [rows_cons hc, hrows, List.modifyHead_cons]
      rw [hrows] at ih
      have hrow := bracketMarks_append [c] row
      have htext := bracketMarks_append [c] cs
      simp only [List.singleton_append] at hrow htext
      rw [htext, ← ih, List.flatMap_cons, hrow, List.flatMap_cons, List.append_assoc]

/-- A carriage return at the end of a row is no bracket. -/
theorem bracketMarks_dropReturn (row : List Char) :
    bracketMarks (dropReturn row) = bracketMarks row := by
  unfold dropReturn
  split
  case isTrue hreturn =>
    obtain ⟨start, rfl⟩ := List.getLast?_eq_some_iff.mp hreturn
    rw [List.dropLast_concat, bracketMarks_append]
    exact (List.append_nil _).symm
  case isFalse => rfl

/-- The brackets of a text are those of its code rows. -/
theorem flatMap_bracketMarks_codeRows (text : List Char) :
    (codeRows text).flatMap bracketMarks = bracketMarks text := by
  rw [← flatMap_bracketMarks_rows, codeRows]
  generalize rows text = lines
  fun_induction dropReturns lines with
  | case1 => rfl
  | case2 last => rfl
  | case3 row next rest ih =>
    rw [List.flatMap_cons, ih, bracketMarks_dropReturn, ← List.flatMap_cons]

/-- A line of blanks has no brackets. -/
theorem bracketMarks_of_strip_eq_nil {line : List Char} (h : strip line = []) :
    bracketMarks line = [] := by
  rw [strip, stripEnd, dropEndWhile, List.reverse_eq_nil_iff, List.dropWhile_eq_nil_iff] at h
  have hstart : stripStart line = [] := by
    by_contra hne
    have hfirst := List.head_dropWhile_not isBlank hne
    have hblank := h _ (List.mem_reverse.mpr (List.head_mem hne))
    exact Bool.false_ne_true (hfirst.symm.trans hblank)
  exact bracketMarks_eq_nil BracketMark.isBlank_char (List.dropWhile_eq_nil_iff.mp hstart)

/-- A text with neither directives nor continued lines. -/
structure IsPureCode (text : List Char) : Prop where
  /-- No line starts with a hash, not counting blanks. -/
  no_directive : ∀ row ∈ codeRows text, (stripStart row).head? ≠ some '#'
  /-- No line ends in a backslash, not counting blanks. -/
  no_continuation : ∀ row ∈ codeRows text, endsInBackslash row = false

/-- Without directives and continued lines, the lines of code hold the brackets of all lines. -/
theorem flatMap_bracketMarks_layoutFrom (conds : Conditionals) (number : Nat)
    {lines : List (List Char)} (hdirective : ∀ row ∈ lines, (stripStart row).head? ≠ some '#')
    (hcontinued : ∀ row ∈ lines, endsInBackslash row = false) :
    (layoutFrom conds false number lines).code.flatMap (fun code => bracketMarks code.text) =
      lines.flatMap bracketMarks := by
  induction lines generalizing number with
  | nil => rfl
  | cons line lines ih =>
    obtain ⟨hhash, hdirective⟩ := List.forall_mem_cons.mp hdirective
    obtain ⟨hends, hcontinued⟩ := List.forall_mem_cons.mp hcontinued
    have hrest := ih (number + 1) hdirective hcontinued
    unfold layoutFrom
    simp only [hends, Bool.false_or]
    split
    case isTrue hblank =>
      rw [hrest, List.flatMap_cons, bracketMarks_of_strip_eq_nil (List.isEmpty_iff.mp hblank),
        List.nil_append]
    split
    case isTrue hstripped =>
      -- What is left of a line without its blanks starts like the line without those before it.
      obtain ⟨more, hmore⟩ := List.head?_eq_some_iff.mp hstripped
      have hstart : '#' :: more <+: stripStart line := hmore ▸ dropEndWhile_isPrefix isBlank _
      obtain ⟨_, hline⟩ := hstart
      exact absurd (by rw [← hline]; rfl) hhash
    case isFalse => rw [List.flatMap_cons, List.flatMap_cons, hrest]

/-- Without directives and continued lines, the steps of a source read the brackets of its text. -/
theorem marks_walkTrace (catalog : Catalog) (config : Config) {text : List Char}
    (htext : IsPureCode text) :
    WalkStep.marks (walkTrace catalog config text) = bracketMarks text := by
  have hlines : ∀ (env : Environment) (w : Walk) (code : List CodeLine),
      WalkStep.marks (w.traceLines env code) =
        code.flatMap fun line => bracketMarks line.text := by
    intro env w code
    induction code generalizing w with
    | nil => rfl
    | cons line code ih =>
      have hline : WalkStep.marks (w.trace env line none (tokenize line.text)) =
          bracketMarks line.text := by
        rw [marks_trace, tokenize, marks_tokensFrom 0 0 line.text rfl]
      rw [Walk.traceLines, List.flatMap_cons, ← ih, ← hline]
      exact List.filterMap_append
  rw [walkTrace, hlines, layout,
    flatMap_bracketMarks_layoutFrom {} 0 htext.no_directive htext.no_continuation,
    flatMap_bracketMarks_codeRows]

end BrickLint
