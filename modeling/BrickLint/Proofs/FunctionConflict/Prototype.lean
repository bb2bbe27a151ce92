import BrickLint.Proofs.Bracket.OneKind
import BrickLint.Proofs.FunctionConflict.Report

/-!
# Prototypes

A header is a prototype when a semicolon is the first token behind its parameter list. The end of
the list is looked for in the line of the header only: a list that goes on in the next line, or that
is the last thing in its line, makes no prototype. A header that is recognised as a prototype takes
part in no conflict.
-/

namespace BrickLint

open Text

/-- The tokens go on with a parameter list, the parenthesis that closes it, and the tokens
`behind`. -/
def ClosesBefore (tokens behind : List Token) : Prop :=
  ∃ params close, tokens = params ++ close :: behind ∧ WellNested (marksOf .paren params) ∧
    close.mark? = some (.closes .paren)

/-- The first token behind the parameter list is a semicolon. -/
def EndsInSemicolon (tokens : List Token) : Prop :=
  ∃ behind, ClosesBefore tokens behind ∧ headText? behind = some ";"

/-- The tokens behind the first parenthesis. In a line with a header it is the one of the header. -/
def behindParen (tokens : List Token) : List Token :=
  (tokens.dropWhile (·.text != "(")).tail

/-- Whether a semicolon is the first token behind the parameter list, of which `depth` parentheses
are open. -/
def endsInSemicolon (depth : Nat) : List Token → Bool
  | [] => false
  | token :: rest =>
    match token.mark? with
    | some (.opens .paren) => endsInSemicolon (depth + 1) rest
    | some (.closes .paren) =>
      if depth ≤ 1 then headText? rest == some ";" else endsInSemicolon (depth - 1) rest
    | _ => endsInSemicolon depth rest

/-- What a token is for the parentheses. -/
theorem Token.paren_cases (token : Token) :
    token.mark? = some (.opens .paren) ∨ token.mark? = some (.closes .paren) ∨
      ((∀ rest, marksOf .paren (token :: rest) = marksOf .paren rest) ∧
        ∀ depth rest, endsInSemicolon depth (token :: rest) = endsInSemicolon depth rest) := by
  by_cases hopens : token.mark? = some (.opens .paren)
  · exact Or.inl hopens
  by_cases hcloses : token.mark? = some (.closes .paren)
  · exact Or.inr (Or.inl hcloses)
  · refine Or.inr (Or.inr ⟨marksOf_cons_other hopens hcloses, fun depth rest => ?_⟩)
    rw [endsInSemicolon]
    split
    · contradiction
    · contradiction
    · rfl

/-- Parentheses that are closed again are passed over. -/
theorem endsInSemicolon_append {params : List Token} {depth depth' : Nat}
    (h : followMarks (List.replicate depth .paren) (marksOf .paren params) =
      some (List.replicate depth' .paren)) (rest : List Token) :
    endsInSemicolon (depth + 1) (params ++ rest) = endsInSemicolon (depth' + 1) rest := by
  induction params generalizing depth with
  | nil =>
    have hsame : depth = depth' := by simpa using congrArg List.length (Option.some.inj h)
    rw [hsame, List.nil_append]
  | cons token params ih =>
    rcases token.paren_cases with hopens | hcloses | ⟨hmarks, hends⟩
    · rw [marksOf_cons_opens hopens, followMarks, ← List.replicate_succ] at h
      simpa [endsInSemicolon, hopens] using ih h
    · rw [marksOf_cons_closes hcloses] at h
      cases depth with
      | zero => simp [followMarks] at h
      | succ depth =>
        have hrest : followMarks (List.replicate depth .paren) (marksOf .paren params) =
            some (List.replicate depth' .paren) := by
          simpa [followMarks, List.replicate_succ] using h
        simpa [endsInSemicolon, hcloses] using ih hrest
    · rw [hmarks] at h
      rw [List.cons_append, hends, ih h]

/-- The end of a parameter list, of which some parentheses are open, is found. -/
theorem exists_of_endsInSemicolon {depth : Nat} {tokens : List Token}
    (h : endsInSemicolon (depth + 1) tokens = true) :
    ∃ params close behind, tokens = params ++ close :: behind ∧
      followMarks (List.replicate depth .paren) (marksOf .paren params) = some [] ∧
      close.mark? = some (.closes .paren) ∧ headText? behind = some ";" := by
  induction tokens generalizing depth with
  | nil => simp [endsInSemicolon] at h
  | cons token tokens ih =>
    rcases token.paren_cases with hopens | hcloses | ⟨hmarks, hends⟩
    · obtain ⟨params, close, behind, rfl, hparams, hclose, hbehind⟩ :=
        ih (by simpa [endsInSemicolon, hopens] using h)
      refine ⟨token :: params, close, behind, rfl, ?_, hclose, hbehind⟩
      rw [marksOf_cons_opens hopens, followMarks, ← List.replicate_succ, hparams]
    · cases depth with
      | zero =>
        have hbehind : headText? tokens = some ";" := by
          simpa [endsInSemicolon, hcloses] using h
        exact ⟨[], token, tokens, rfl, rfl, hcloses, hbehind⟩
      | succ depth =>
        obtain ⟨params, close, behind, rfl, hparams, hclose, hbehind⟩ :=
          ih (by simpa [endsInSemicolon, hcloses] using h)
        refine ⟨token :: params, close, behind, rfl, ?_, hclose, hbehind⟩
        simpa [marksOf_cons_closes hcloses, followMarks, List.replicate_succ] using hparams
    · rw [hends] at h
      obtain ⟨params, close, behind, rfl, hparams, hclose, hbehind⟩ := ih h
      exact ⟨token :: params, close, behind, rfl, by rw [hmarks, hparams], hclose, hbehind⟩

/-- Behind a parameter list that is closed, one looks at the next token. -/
theorem endsInSemicolon_of_closesBefore {tokens behind : List Token}
    (h : ClosesBefore tokens behind) :
    endsInSemicolon 1 tokens = (headText? behind == some ";") := by
  obtain ⟨params, close, rfl, hparams, hclose⟩ := h
  have hnone : followMarks (List.replicate 0 .paren) (marksOf .paren params) =
      some (List.replicate 0 .paren) := hparams.followMarks_eq []
  rw [endsInSemicolon_append hnone]
  simp [endsInSemicolon, hclose]

/-- The search for the end of a parameter list decides whether a semicolon follows it. -/
theorem endsInSemicolon_iff {tokens : List Token} :
    endsInSemicolon 1 tokens = true ↔ EndsInSemicolon tokens := by
  constructor
  · intro h
    obtain ⟨params, close, behind, rfl, hparams, hclose, hbehind⟩ := exists_of_endsInSemicolon h
    exact ⟨behind, ⟨params, close, rfl, wellNested_iff_followMarks.mpr hparams, hclose⟩, hbehind⟩
  · rintro ⟨behind, hcloses, hbehind⟩
    simp [endsInSemicolon_of_closesBefore hcloses, hbehind]

/-- What follows in later lines does not matter when a token follows the list in its own line. -/
theorem ClosesBefore.endsInSemicolon_append_iff {tokens behind : List Token} {next : Token}
    (h : ClosesBefore tokens (next :: behind)) (later : List Token) :
    EndsInSemicolon (tokens ++ later) ↔ EndsInSemicolon tokens := by
  have hlater : ClosesBefore (tokens ++ later) (next :: (behind ++ later)) := by
    obtain ⟨params, close, rfl, hparams, hclose⟩ := h
    exact ⟨params, close, by simp, hparams, hclose⟩
  rw [← endsInSemicolon_iff, ← endsInSemicolon_iff, endsInSemicolon_of_closesBefore h,
    endsInSemicolon_of_closesBefore hlater]
  rfl

/-- The first token is a semicolon if and only if the first character that is not blank is one. -/
theorem headText?_tokensFrom (column : Nat) (cs : List Char) :
    headText? (tokensFrom 0 column cs) = some ";" ↔ (stripStart cs).head? = some ';' := by
  induction cs generalizing column with
  | nil => simp [tokensFrom, headText?, stripStart]
  | cons c cs ih =>
    by_cases hblank : isBlank c = true
    · simpa [tokensFrom, hblank, stripStart] using ih (column + 1)
    · have hstrip : stripStart (c :: cs) = c :: cs := by simp [stripStart, hblank]
      simp only [tokensFrom, hblank, Bool.false_eq_true, if_false, headText?, List.head?_cons,
        Option.map_some, hstrip, Option.some.injEq]
      constructor
      · intro htext
        have hchars : (lexeme c cs).2 = [';'] := by
          rw [← String.toList_ofList (l := (lexeme c cs).2)]
          exact congrArg String.toList htext
        have hhead := head?_lexeme c cs
        rw [hchars] at hhead
        exact (Option.some.inj hhead).symm
      · rintro rfl
        have hstart : isIdentStart ';' = false := by decide
        have hdigit : isDigitChar ';' = false := by decide
        simp [lexeme, hstart, hdigit]

/-- The search for the end of a parameter list reads the tokens of the characters. -/
theorem endsAsPrototype_eq (depth skip column : Nat) (cs : List Char)
    (hskip : bracketMarks (cs.take skip) = []) :
    endsAsPrototype depth cs = endsInSemicolon depth (tokensFrom skip column cs) := by
  induction cs generalizing depth skip column with
  | nil => rfl
  | cons c cs ih =>
    have hplain : BracketMark.ofChar? c ≠ some (.opens .paren) →
        BracketMark.ofChar? c ≠ some (.closes .paren) →
          endsAsPrototype depth (c :: cs) = endsAsPrototype depth cs := by
      intro hopens hcloses
      have hc : c ≠ '(' := fun h => hopens (by rw [h]; rfl)
      have hc' : c ≠ ')' := fun h => hcloses (by rw [h]; rfl)
      simp [endsAsPrototype, hc, hc']
    cases skip with
    | succ remaining =>
      -- The character belongs to a token that has been read, which is no bracket.
      rw [List.take_succ_cons, bracketMarks, List.filterMap_cons] at hskip
      cases hc : BracketMark.ofChar? c with
      | some mark => simp [hc] at hskip
      | none =>
        rw [hc] at hskip
        rw [hplain (by simp [hc]) (by simp [hc]), tokensFrom]
        exact ih depth remaining (column + 1) hskip
    | zero =>
      by_cases hblank : isBlank c = true
      · have hc := BracketMark.ofChar?_eq_none BracketMark.isBlank_char hblank
        rw [hplain (by simp [hc]) (by simp [hc])]
        simpa [tokensFrom, hblank] using ih depth 0 (column + 1) rfl
      · have hrest := fun depth =>
          ih depth ((lexeme c cs).2.length - 1) (column + 1) (bracketMarks_take_lexeme c cs)
        have hmark := mark?_lexeme c cs column
        simp only [tokensFrom, hblank, Bool.false_eq_true, if_false]
        by_cases hopens : c = '('
        · subst hopens
          have hparen : BracketMark.ofChar? '(' = some (.opens .paren) := rfl
          rw [hparen] at hmark
          simp only [endsInSemicolon, hmark, ← hrest]
          rfl
        by_cases hcloses : c = ')'
        · subst hcloses
          have hparen : BracketMark.ofChar? ')' = some (.closes .paren) := rfl
          have hone : (lexeme ')' cs).2.length - 1 = 0 := by
            have hstart : isIdentStart ')' = false := by decide
            have hdigit : isDigitChar ')' = false := by decide
            simp [lexeme, hstart, hdigit]
          rw [hparen] at hmark
          simp only [endsInSemicolon, hmark, ← hrest]
          simp only [endsAsPrototype, Char.reduceEq, if_false, if_true, hone]
          split
          · rw [Bool.eq_iff_iff, beq_iff_eq, beq_iff_eq, headText?_tokensFrom]
          · rfl
        · have hnone : BracketMark.ofChar? c ≠ some (.opens .paren) ∧
              BracketMark.ofChar? c ≠ some (.closes .paren) := by
            simp only [ne_eq, BracketMark.ofChar?_eq_some_iff]
            exact ⟨hopens, hcloses⟩
          rw [hplain hnone.1 hnone.2, hrest]
          rw [← hmark] at hnone
          rcases Token.paren_cases ⟨(lexeme c cs).1, String.ofList (lexeme c cs).2, column⟩ with
            hparen | hparen | ⟨_, hends⟩
          · exact absurd hparen hnone.1
          · exact absurd hparen hnone.2
          · rw [hends]

/-- The tokens behind a token are those of the rest of the line. -/
theorem tokensFrom_behind {cs : List Char} {skip column : Nat} {before after : List Token}
    {token : Token} (h : tokensFrom skip column cs = before ++ token :: after) :
    after = tokensFrom 0 (token.column + token.text.length)
      (cs.drop (token.column + token.text.length - column)) := by
  induction cs generalizing skip column before with
  | nil => simp [tokensFrom] at h
  | cons c cs ih =>
    have hmem : token ∈ tokensFrom skip column (c :: cs) := by simp [h]
    have hcolumn := (columns_tokensFrom skip column (c :: cs)).1 token hmem
    -- Behind the first character the columns are counted from the next one.
    have hnext : ∀ skip', tokensFrom skip' (column + 1) cs = before ++ token :: after →
        column < token.column → after = tokensFrom 0 (token.column + token.text.length)
          ((c :: cs).drop (token.column + token.text.length - column)) := by
      intro skip' hrest hlt
      have hdrop : token.column + token.text.length - column =
          token.column + token.text.length - (column + 1) + 1 := by omega
      rw [hdrop, List.drop_succ_cons]
      exact ih hrest
    cases skip with
    | succ remaining => exact hnext remaining h (by omega)
    | zero =>
      by_cases hblank : isBlank c = true
      · have hrest : tokensFrom 0 (column + 1) cs = before ++ token :: after := by
          simpa [tokensFrom, hblank] using h
        have hlater := (columns_tokensFrom 0 (column + 1) cs).1 token (by simp [hrest])
        exact hnext 0 hrest (by omega)
      · simp only [tokensFrom, hblank, Bool.false_eq_true, if_false] at h
        cases before with
        | nil =>
          obtain ⟨rfl, rfl⟩ := List.cons.inj h
          obtain ⟨rest, hrest⟩ := lexeme_isPrefix c cs
          obtain ⟨passed, hpassed⟩ := List.head?_eq_some_iff.mp (head?_lexeme c cs)
          have hcs : cs = passed ++ rest := by
            rw [hpassed, List.cons_append] at hrest
            exact (List.cons.inj hrest).2.symm
          have hskip := tokensFrom_skip passed rest (column + 1)
          have hlength : (String.ofList (lexeme c cs).2).length = passed.length + 1 := by
            rw [String.length_ofList, hpassed, List.length_cons]
          have hdrop : column + (passed.length + 1) - column = passed.length + 1 := by omega
          have hstart : column + (passed.length + 1) = column + 1 + passed.length := by omega
          rw [hlength, hdrop, List.drop_succ_cons, hpassed, List.length_cons, Nat.add_sub_cancel]
          rw [← hcs] at hskip
          rw [hskip, hstart, hcs, List.drop_left]
        | cons first before =>
          obtain ⟨rfl, hrest⟩ := List.cons.inj h
          have hlater := (columns_tokensFrom ((lexeme c cs).2.length - 1) (column + 1) cs).1 token
            (by simp [hrest])
          have hdrop : token.column + token.text.length - column =
              token.column + token.text.length - (column + 1) + 1 := by omega
          rw [hdrop, List.drop_succ_cons]
          exact ih hrest

variable {catalog : Catalog} {config : Config} {text : List Char}

/-- The first parenthesis of a line with a header is the one of the header. -/
theorem behindParen_of_matchHeader? {line : List Char} {header : HeaderMatch}
    (h : matchHeader? (typesOfSource catalog text) line = some header) :
    behindParen (tokenize line) = tokensFrom 0 header.stop (line.drop header.stop) := by
  have htypes := isIdentifier_of_mem_typesOfSource catalog text
  have hne : typesOfSource catalog text ≠ [] := by simp [typesOfSource, variableTypes]
  obtain ⟨before, after, hstart, hname, hstop, htokens⟩ := hasHeader_of_matchHeader? htypes hne h
  have hbefore : ∀ token ∈ before ++ [⟨.ident, header.name, header.column⟩],
      (token.text != "(") = true := by
    intro token htoken
    rw [bne_iff_ne]
    rcases List.mem_append.mp htoken with hword | hlast
    · exact hstart.ne_paren htypes token.text (List.mem_map_of_mem hword)
    · rw [List.mem_singleton.mp hlast]
      exact ne_paren_of_isIdentifier hname
  have hsplit : tokenize line = (before ++ [⟨.ident, header.name, header.column⟩]) ++
      ⟨.punct, "(", header.stop - 1⟩ :: after := by simp [htokens]
  have hbehind : after = tokensFrom 0 header.stop (line.drop header.stop) := by
    have hrest := tokensFrom_behind hsplit
    have hlength : header.stop - 1 + "(".length = header.stop := Nat.sub_add_cancel hstop
    rwa [hlength] at hrest
  rw [behindParen, hsplit, List.dropWhile_append_of_pos hbefore, ← hbehind]
  rfl

/-- A header is a prototype if and only if a semicolon follows its parameter list in its line. -/
theorem isPrototype_iff_endsInSemicolon {line : CodeLine} {h : FunctionDecl}
    (hheader : functionOfLine? (typesOfSource catalog text) line = some h) :
    h.isPrototype = true ↔ EndsInSemicolon (behindParen (tokenize line.text)) := by
  obtain ⟨header, hmatch, rfl⟩ := Option.map_eq_some_iff.mp hheader
  rw [behindParen_of_matchHeader? hmatch, ← endsInSemicolon_iff]
  exact Bool.eq_iff_iff.mp (endsAsPrototype_eq 1 0 header.stop (line.text.drop header.stop) rfl)

/-- The line that a conflict names. -/
def Cause.conflictLine? : Cause → Option Nat
  | .functionRedeclared _ line | .functionConflict _ line => some line
  | _ => none

/-- A header takes part in a conflict: the error stands at it or names its line. -/
def FunctionDecl.TakesPart (h : FunctionDecl) (report : DeclarationReport) : Prop :=
  ∃ f ∈ report.findings, ∃ line, f.cause.conflictLine? = some line ∧
    (f.line = h.line ∨ line = h.line)

/-- Headers on the same line are the same. -/
theorem eq_of_line_eq {d h : FunctionDecl} (hd : d ∈ sourceHeaders catalog text)
    (hh : h ∈ sourceHeaders catalog text) (hline : d.line = h.line) : d = h := by
  have hnodup : ((sourceHeaders catalog text).map (·.line)).Nodup :=
    List.pairwise_map.mpr ((lines_sourceHeaders catalog text).imp fun hlt => Nat.ne_of_lt hlt)
  exact List.inj_on_of_nodup_map hnodup hd hh hline

/-- A prototype takes part in no conflict. -/
theorem not_takesPart_of_isPrototype {h : FunctionDecl} (hh : h ∈ sourceHeaders catalog text)
    (hprototype : h.isPrototype = true) : ¬h.TakesPart (checkDeclarations catalog config text) := by
  rintro ⟨f, hf, line, hline, hplace⟩
  have hconflict : f.cause.isConflict = true := by
    cases hcause : f.cause <;> simp [hcause, Cause.conflictLine?, Cause.isConflict] at hline ⊢
  obtain ⟨before, e, after, cause, hsplit, hcause, rfl⟩ :=
    (mem_findings_of_isConflict hconflict).mp hf
  obtain ⟨standing, hstanding, hcause⟩ := Option.bind_eq_some_iff.mp hcause
  obtain ⟨hfirst, hsecond⟩ := FunctionDecl.isDefinition_of_conflictWith? hcause
  have hstands : standing ∈ sourceHeaders catalog text := by
    rw [hsplit]
    exact List.mem_append_left _ (List.mem_filter.mp (mem_of_standing? hstanding)).1
  have he : e ∈ sourceHeaders catalog text := by simp [hsplit]
  have hnames : line = standing.line := by
    unfold FunctionDecl.conflictWith? at hcause
    split at hcause
    · cases hcause
    split at hcause
    · obtain rfl := Option.some.inj hcause
      exact (Option.some.inj hline).symm
    split at hcause
    · obtain rfl := Option.some.inj hcause
      exact (Option.some.inj hline).symm
    · cases hcause
  -- The two headers of a conflict are definitions, so neither is on the line of the prototype.
  have hdefinition : ∀ d ∈ sourceHeaders catalog text, d.line = h.line →
      d.isDefinition = false := by
    intro d hd hsame
    simp [eq_of_line_eq hd hh hsame, FunctionDecl.isDefinition, hprototype]
  rcases hplace with hplace | hplace
  · have hsame : (e.line : Int) = h.line := hplace
    rw [hdefinition e he (by omega)] at hsecond
    cases hsecond
  · rw [hdefinition standing hstands (hnames.symm.trans hplace)] at hfirst
    cases hfirst

/-- A header is recognised as a prototype if and only if a semicolon is the first token behind its
parameter list, in this line or a later one, and the list and a token behind it stand in the line of
the header. A recognised prototype takes part in no conflict. -/
theorem isPrototype_iff_semicolon_behind (catalog : Catalog) (config : Config) (text : List Char)
    {before after : List CodeLine} {line : CodeLine} {h : FunctionDecl}
    (hline : (layout (codeRows text)).code = before ++ line :: after)
    (hheader : functionOfLine? (typesOfSource catalog text) line = some h) :
    (h.isPrototype = true ↔
      EndsInSemicolon (behindParen (tokenize line.text) ++ after.flatMap (tokenize ·.text)) ∧
        ∃ next behind, ClosesBefore (behindParen (tokenize line.text)) (next :: behind)) ∧
    (h.isPrototype = true → ¬h.TakesPart (checkDeclarations catalog config text)) := by
  constructor
  · rw [isPrototype_iff_endsInSemicolon hheader]
    constructor
    · rintro ⟨behind, hcloses, hsemicolon⟩
      cases behind with
      | nil => cases hsemicolon
      | cons next behind =>
        refine ⟨?_, next, behind, hcloses⟩
        exact (hcloses.endsInSemicolon_append_iff _).mpr ⟨next :: behind, hcloses, hsemicolon⟩
    · rintro ⟨hsemicolon, next, behind, hcloses⟩
      exact (hcloses.endsInSemicolon_append_iff _).mp hsemicolon
  · refine not_takesPart_of_isPrototype (List.mem_filterMap.mpr ⟨line, ?_, hheader⟩)
    simp [hline]

/-- A prototype with a parameter that is a function, and the definition. -/
def nestedPrototype : List Char :=
  "void f(int g(int),int b) ;\nvoid f(int g(int),int b)\x7b\x7d".toList

/-- The line of the prototype. -/
def nestedPrototypeLine : CodeLine :=
  ⟨0, "void f(int g(int),int b) ;".toList, []⟩

/-- The line of the definition. -/
def nestedDefinitionLine : CodeLine :=
  ⟨1, "void f(int g(int),int b)\x7b\x7d".toList, []⟩

/-- The semicolon behind the outer list makes a prototype, and the definition has no conflict with
it. -/
theorem isPrototype_nestedPrototype :
    (layout (codeRows nestedPrototype)).code = [nestedPrototypeLine, nestedDefinitionLine] ∧
    functionOfLine? (typesOfSource typeCatalog nestedPrototype) nestedPrototypeLine =
      some (headerOfF 0 false true) ∧
    EndsInSemicolon (behindParen (tokenize nestedPrototypeLine.text) ++
      tokenize nestedDefinitionLine.text) ∧
    ¬(headerOfF 0 false true).TakesPart (checkDeclarations typeCatalog {} nestedPrototype) := by
  have hcode : (layout (codeRows nestedPrototype)).code =
      [] ++ nestedPrototypeLine :: [nestedDefinitionLine] := by
    cbv
  have hheader : functionOfLine? (typesOfSource typeCatalog nestedPrototype) nestedPrototypeLine =
      some (headerOfF 0 false true) := by
    cbv
  obtain ⟨hrecognised, hsilent⟩ := isPrototype_iff_semicolon_behind typeCatalog {} nestedPrototype
    hcode hheader
  refine ⟨hcode, hheader, ?_, hsilent rfl⟩
  simpa using (hrecognised.mp rfl).1

/-- A prototype whose parameter list goes on in the next line, and the definition. -/
def splitPrototype : List Char :=
  "void f(int a,\nint b);\nvoid f(int a,int b)\x7b\x7d".toList

/-- Not all prototypes are recognised: a list that goes on in the next line hides the semicolon, and
the definition is reported as a second one. -/
theorem takesPart_splitPrototype : IsPureCode (scrub splitPrototype) ∧
    ∃ before line after h,
      (layout (codeRows (scrub splitPrototype))).code = before ++ line :: after ∧
      functionOfLine? (typesOfSource typeCatalog (scrub splitPrototype)) line = some h ∧
      EndsInSemicolon (behindParen (tokenize line.text) ++ after.flatMap (tokenize ·.text)) ∧
      h.isPrototype = false ∧
      h.TakesPart (checkDeclarations typeCatalog {} (scrub splitPrototype)) := by
  have hpure : IsPureCode (scrub splitPrototype) := ⟨by decide, by decide⟩
  have hcode : (layout (codeRows (scrub splitPrototype))).code =
      [⟨0, "void f(int a,".toList, []⟩, ⟨1, "int b);".toList, []⟩,
        ⟨2, "void f(int a,int b)\x7b\x7d".toList, []⟩] := by
    cbv
  have hheader : functionOfLine? (typesOfSource typeCatalog (scrub splitPrototype))
      ⟨0, "void f(int a,".toList, []⟩ = some (headerOfF 0 false false) := by
    cbv
  have hfinding : (headerOfF 2 false false).finding (.functionRedeclared "f" 0) ∈
      (checkDeclarations typeCatalog {} (scrub splitPrototype)).findings := by
    have hfindings : (checkDeclarations typeCatalog {} (scrub splitPrototype)).findings.head? =
        some ((headerOfF 2 false false).finding (.functionRedeclared "f" 0)) := by
      cbv
    exact List.mem_of_head? hfindings
  refine ⟨hpure, [], _, _, headerOfF 0 false false, hcode, hheader, ?_, rfl, ?_⟩
  · rw [← endsInSemicolon_iff]
    cbv
  · exact ⟨_, hfinding, 0, rfl, Or.inr rfl⟩

end BrickLint
