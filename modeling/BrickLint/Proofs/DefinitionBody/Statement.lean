import BrickLint.Declaration.Report
import BrickLint.Proofs.Anchor.Place
import BrickLint.Proofs.Token
import Mathlib.Data.List.TakeWhile

/-!
# Lines of statements

Two passes read every line of a source, the bodies of definitions included: one for the names of
types, and one for indexed initializers. A line of complete statements means the same to them
whatever the statements are: it leaves no name behind, and nothing that has been started reaches
beyond it.
-/

namespace BrickLint

open Text

/-- A line of complete statements, none of which has braces or introduces a type. -/
structure IsStatementLine (line : List Char) : Prop where
  /-- The line starts with a word. -/
  starts : (stripStart line).head?.any isIdentStart = true
  /-- There are no braces. -/
  no_brace : ∀ c ∈ line, c ≠ '{' ∧ c ≠ '}'
  /-- No word introduces a type. -/
  no_type : ∀ token ∈ tokenize line, token.text ≠ "typedef" ∧ token.text ∉ tagWords
  /-- The last statement ends in the line, and at most backslashes follow. -/
  ends : ∃ statements tail, line = statements ++ ';' :: tail ∧
    ∀ c ∈ tail, isBlank c = true ∨ c = '\\'

namespace TypeNames

/-- No type is being introduced. -/
structure AtRest (s : TypeNames) : Prop where
  /-- No tag is awaited. -/
  expectTag : s.expectTag = false
  /-- No enumeration is open. -/
  enumDepth : s.enumDepth = none
  /-- No type definition is open. -/
  typedefDepth : s.typedefDepth = none

variable {catalog : Catalog} {s : TypeNames} {token : Token} {line : List Char}

/-- The pass is outside all enumerations. -/
theorem AtRest.inEnumBody (hs : s.AtRest) : s.inEnumBody = false := by
  simp [TypeNames.inEnumBody, hs.enumDepth]

/-- No tag is awaited, so there is nothing to forget. -/
theorem AtRest.forget (hs : s.AtRest) : { s with expectTag := false } = s := by
  rw [← hs.expectTag]

/-- What has been announced and the last name introduce no type. -/
theorem AtRest.withNames (hs : s.AtRest) (pendingEnum : Bool) (lastIdent : Option String) :
    AtRest { s with pendingEnum := pendingEnum, lastIdent := lastIdent } :=
  ⟨hs.expectTag, hs.enumDepth, hs.typedefDepth⟩

/-- A number, or a mark that neither groups nor separates, changes nothing. -/
theorem AtRest.step_of_idle (hs : s.AtRest) (hkind : token.kind ≠ .ident)
    (htext : token.text ∉ ["\x7b", "\x7d", ",", ";"]) : s.step catalog token = s := by
  simp only [List.mem_cons, List.not_mem_nil, or_false, not_or] at htext
  obtain ⟨hopen, hclose, hcomma, hend⟩ := htext
  unfold step
  cases hcase : token.kind with
  | ident => exact absurd hcase hkind
  | number => rfl
  | punct => simp only [punct, hs.forget, hopen, hclose, hcomma, hend, if_false]

/-- A semicolon leaves no name behind. -/
theorem AtRest.punct_semicolon (hs : s.AtRest) :
    s.punct catalog ";" = { s with pendingEnum := false, lastIdent := none } := by
  have hopen : ";" ≠ "\x7b" := by decide
  have hclose : ";" ≠ "\x7d" := by decide
  have hcomma : ";" ≠ "," := by decide
  have htypedef : s.typedefDepth ≠ some s.depth := by simp [hs.typedefDepth]
  simp only [punct, hs.expectTag, hopen, hclose, hcomma, if_false, if_true, endStatement, htypedef]

/-- A token of a statement changes only what has been announced and the last name. -/
theorem AtRest.step (hs : s.AtRest) (catalog : Catalog)
    (hbrace : token.text ≠ "\x7b" ∧ token.text ≠ "\x7d")
    (htype : token.text ≠ "typedef" ∧ token.text ∉ tagWords) :
    ∃ pendingEnum lastIdent, s.step catalog token =
      { s with pendingEnum := pendingEnum, lastIdent := lastIdent } := by
  obtain ⟨hopen, hclose⟩ := hbrace
  obtain ⟨htypedef, htag⟩ := htype
  cases hkind : token.kind with
  | ident =>
    refine ⟨s.pendingEnum, some token.text, ?_⟩
    simp only [TypeNames.step, hkind, ident, hs.expectTag, List.contains_eq_mem, htag, htypedef,
      hs.inEnumBody, Bool.false_and, decide_false, Bool.false_eq_true, if_false]
  | number => exact ⟨s.pendingEnum, s.lastIdent, by rw [TypeNames.step, hkind]⟩
  | punct =>
    by_cases hend : token.text = ";"
    · refine ⟨false, none, ?_⟩
      rw [TypeNames.step, hkind, hend]
      exact hs.punct_semicolon
    refine ⟨s.pendingEnum, s.lastIdent, ?_⟩
    by_cases hcomma : token.text = ","
    · simp [TypeNames.step, hkind, punct, hs.forget, hcomma, hs.inEnumBody]
    · exact hs.step_of_idle (by simp [hkind]) (by simp [hopen, hclose, hcomma, hend])

/-- Tokens of statements change only what has been announced and the last name. -/
theorem AtRest.foldl_step (hs : s.AtRest) (catalog : Catalog) {tokens : List Token}
    (hbrace : ∀ token ∈ tokens, token.text ≠ "\x7b" ∧ token.text ≠ "\x7d")
    (htype : ∀ token ∈ tokens, token.text ≠ "typedef" ∧ token.text ∉ tagWords) :
    ∃ pendingEnum lastIdent, tokens.foldl (TypeNames.step catalog) s =
      { s with pendingEnum := pendingEnum, lastIdent := lastIdent } := by
  induction tokens generalizing s with
  | nil => exact ⟨s.pendingEnum, s.lastIdent, rfl⟩
  | cons token tokens ih =>
    obtain ⟨hbrace, hbraces⟩ := List.forall_mem_cons.mp hbrace
    obtain ⟨htype, htypes⟩ := List.forall_mem_cons.mp htype
    obtain ⟨pendingEnum, lastIdent, hstep⟩ := hs.step catalog hbrace htype
    obtain ⟨pendingEnum', lastIdent', hfold⟩ :=
      ih (hs.withNames pendingEnum lastIdent) hbraces htypes
    refine ⟨pendingEnum', lastIdent', ?_⟩
    rw [List.foldl_cons, hstep, hfold]

/-- Blanks and backslashes change nothing. -/
theorem AtRest.foldl_step_of_blank (hs : s.AtRest) {tail : List Char}
    (htail : ∀ c ∈ tail, isBlank c = true ∨ c = '\\') (column : Nat) :
    (tokensFrom 0 column tail).foldl (TypeNames.step catalog) s = s := by
  have hidle : ∀ token ∈ tokensFrom 0 column tail, s.step catalog token = s := by
    intro token htoken
    have hchar : ∀ c, isBlank c = false → c ≠ '\\' → c ∉ token.text.toList := by
      intro c hblank hbackslash hc
      rcases htail c (mem_of_mem_tokensFrom htoken hc) with hc | hc
      · exact Bool.false_ne_true (hblank.symm.trans hc)
      · exact hbackslash hc
    refine hs.step_of_idle (fun hkind => ?_) ?_
    · obtain ⟨c, cs, hchars, hstart, _⟩ :=
        (isIdentifier_iff _).mp (isIdentifier_of_mem_tokensFrom htoken hkind)
      refine hchar c (isBlank_of_isIdentChar (isIdentChar_of_isIdentStart hstart)) ?_ ?_
      · rintro rfl
        simp [isIdentStart] at hstart
      · simp [hchars]
    · simp only [List.mem_cons, List.not_mem_nil, or_false, not_or]
      exact ⟨fun h => hchar '{' (by decide) (by decide) (by simp [h]),
        fun h => hchar '}' (by decide) (by decide) (by simp [h]),
        fun h => hchar ',' (by decide) (by decide) (by simp [h]),
        fun h => hchar ';' (by decide) (by decide) (by simp [h])⟩
  generalize tokensFrom 0 column tail = tokens at hidle ⊢
  induction tokens with
  | nil => rfl
  | cons token tokens ih =>
    obtain ⟨htoken, htokens⟩ := List.forall_mem_cons.mp hidle
    rw [List.foldl_cons, htoken, ih htokens]

/-- A line of statements leaves no name behind. -/
theorem AtRest.foldl_step_statement (hs : s.AtRest) (hline : IsStatementLine line) :
    (tokenize line).foldl (TypeNames.step catalog) s =
      { s with pendingEnum := false, lastIdent := none } := by
  obtain ⟨statements, tail, rfl, htail⟩ := hline.ends
  have hsplit : tokenize (statements ++ ';' :: tail) = tokensFrom 0 0 statements ++
      ⟨.punct, ";", 0 + statements.length⟩ :: tokensFrom 0 (0 + statements.length + 1) tail := by
    rw [tokenize, tokensFrom_append_separator (by decide) (Nat.zero_le _) 0 tail,
      tokensFrom_mark (by decide) (by decide) (by decide) (by decide)]
    rfl
  have hbrace : ∀ token ∈ tokensFrom 0 0 statements,
      token.text ≠ "\x7b" ∧ token.text ≠ "\x7d" := by
    intro token htoken
    have hchar : ∀ c ∈ token.text.toList, c ≠ '{' ∧ c ≠ '}' := fun c hc =>
      hline.no_brace c (List.mem_append_left _ (mem_of_mem_tokensFrom htoken hc))
    exact ⟨fun h => (hchar '{' (by simp [h])).1 rfl, fun h => (hchar '}' (by simp [h])).2 rfl⟩
  have htype : ∀ token ∈ tokensFrom 0 0 statements,
      token.text ≠ "typedef" ∧ token.text ∉ tagWords := by
    intro token htoken
    exact hline.no_type token (hsplit ▸ List.mem_append_left _ htoken)
  obtain ⟨pendingEnum, lastIdent, hfold⟩ := hs.foldl_step catalog hbrace htype
  have hend : TypeNames.step catalog { s with pendingEnum := pendingEnum, lastIdent := lastIdent }
      ⟨.punct, ";", 0 + statements.length⟩ = { s with pendingEnum := false, lastIdent := none } :=
    (hs.withNames pendingEnum lastIdent).punct_semicolon
  rw [hsplit, List.foldl_append, hfold, List.foldl_cons, hend,
    (hs.withNames false none).foldl_step_of_blank htail]

end TypeNames

/-- What stops a run of characters in a text is not the expected character. -/
theorem afterChar?_dropWhile_append {p : Char → Bool} {b : Char} {text : List Char}
    (hstop : ∃ c ∈ text, p c = false) (hb : (text.dropWhile p).head? ≠ some b)
    (rest : List Char) : afterChar? b ((text ++ rest).dropWhile p) = none := by
  have hne : text.dropWhile p ≠ [] := by
    obtain ⟨c, hc, hp⟩ := hstop
    intro hnil
    have hall := List.dropWhile_eq_nil_iff.mp hnil c hc
    exact Bool.false_ne_true (hp.symm.trans hall)
  obtain ⟨first, more, hfirst⟩ := List.exists_cons_of_ne_nil hne
  have hdrop : (text ++ rest).dropWhile p = text.dropWhile p ++ rest := by
    rw [List.dropWhile_append, hfirst]
    rfl
  rw [hdrop, hfirst, List.cons_append, afterChar?, if_neg]
  rintro rfl
  exact hb (by rw [hfirst]; rfl)

/-- Before a semicolon that no brace precedes there is no braced list. -/
theorem isIndexedInitializer_of_semicolon {statements : List Char}
    (hbrace : ∀ c ∈ statements, c ≠ '{' ∧ c ≠ '}') (rest : List Char) :
    isIndexedInitializer (statements ++ ';' :: rest) = false := by
  have hnone : afterChar? '{' (stripStart ((statements ++ [';']) ++ rest)) = none := by
    refine afterChar?_dropWhile_append ⟨';', by simp, by decide⟩ (fun hfirst => ?_) rest
    have hmem := (List.dropWhile_suffix isBlank).subset (List.mem_of_head? hfirst)
    rcases List.mem_append.mp hmem with hmem | hmem
    · exact (hbrace '{' hmem).1 rfl
    · simp at hmem
  rw [List.append_assoc, List.singleton_append] at hnone
  simp [isIndexedInitializer, hnone]

/-- Statements without braces hold no indexed initializers. -/
theorem initializerFindings_statements {statements : List Char}
    (hbrace : ∀ c ∈ statements, c ≠ '{' ∧ c ≠ '}') (p : Position) (rest : List Char) :
    initializerFindings p (statements ++ ';' :: rest) =
      initializerFindings ((statements ++ [';']).foldl Position.advance p) rest := by
  induction statements generalizing p with
  | nil => simp [initializerFindings]
  | cons c statements ih =>
    obtain ⟨_, hbraces⟩ := List.forall_mem_cons.mp hbrace
    rw [List.cons_append, initializerFindings, isIndexedInitializer_of_semicolon hbraces,
      ih hbraces]
    simp

/-- Without an equals sign there are no initializers. -/
theorem initializerFindings_of_not_mem {text : List Char} (htext : '=' ∉ text) (p : Position)
    (rest : List Char) : initializerFindings p (text ++ rest) =
      initializerFindings (text.foldl Position.advance p) rest := by
  induction text generalizing p with
  | nil => rfl
  | cons c text ih =>
    obtain ⟨hc, htext⟩ := List.ne_and_not_mem_of_not_mem_cons htext
    rw [List.cons_append, initializerFindings, if_neg fun h => hc h.1.symm, ih htext,
      List.foldl_cons]

/-- A text without line feeds stays in its line. -/
theorem advance_foldl_newline {text : List Char} (htext : '\n' ∉ text) (p : Position) :
    (text.foldl Position.advance p).advance '\n' = p.advance '\n' := by
  induction text generalizing p with
  | nil => rfl
  | cons c text ih =>
    obtain ⟨hc, htext⟩ := List.ne_and_not_mem_of_not_mem_cons htext
    rw [List.foldl_cons, ih htext]
    simp [Position.advance, hc.symm]

namespace IsStatementLine

variable {line : List Char}

/-- A line of statements holds no indexed initializers. -/
theorem initializerFindings_append (hline : IsStatementLine line) (p : Position)
    (rest : List Char) : initializerFindings p (line ++ rest) =
      initializerFindings (line.foldl Position.advance p) rest := by
  obtain ⟨statements, tail, rfl, htail⟩ := hline.ends
  have hbrace : ∀ c ∈ statements, c ≠ '{' ∧ c ≠ '}' :=
    fun c hc => hline.no_brace c (List.mem_append_left _ hc)
  have hequals : '=' ∉ tail := by
    intro hmem
    rcases htail '=' hmem with hblank | hbackslash
    · exact absurd hblank (by decide)
    · exact absurd hbackslash (by decide)
  rw [List.append_assoc, List.cons_append, initializerFindings_statements hbrace,
    initializerFindings_of_not_mem hequals, ← List.foldl_append, List.append_assoc,
    List.singleton_append]

/-- A line of statements starts neither with a brace nor with a square bracket. -/
theorem afterChar?_stripStart (hline : IsStatementLine line) {b : Char}
    (hb : isIdentStart b = false) (rest : List Char) :
    afterChar? b (stripStart (line ++ rest)) = none := by
  have hfirst := hline.starts
  refine afterChar?_dropWhile_append ?_ (fun hhead => ?_) rest
  · obtain ⟨statements, tail, rfl, _⟩ := hline.ends
    exact ⟨';', by simp, by decide⟩
  · rw [stripStart, hhead, Option.any_some, hb] at hfirst
    cases hfirst

/-- A braced list does not go on through a line of statements. -/
theorem afterChar?_dropWhile (hline : IsStatementLine line) (rest : List Char) :
    afterChar? '}' ((line ++ rest).dropWhile fun c => c != ';' && c != '{' && c != '}') = none := by
  refine afterChar?_dropWhile_append ?_ (fun hhead => ?_) rest
  · obtain ⟨statements, tail, rfl, _⟩ := hline.ends
    exact ⟨';', by simp, by decide⟩
  · exact (hline.no_brace '}' ((List.dropWhile_suffix _).subset (List.mem_of_head? hhead))).2 rfl

end IsStatementLine

/-- Two texts that are alike to the search for indexed initializers: some lines hold other
statements, and some line ends have a carriage return. -/
inductive SearchedAlike : List Char → List Char → Prop
  /-- Nothing is like nothing. -/
  | nil : SearchedAlike [] []
  /-- The same character stands in both texts. -/
  | char (c : Char) {cs cs' : List Char} : SearchedAlike cs cs' → SearchedAlike (c :: cs) (c :: cs')
  /-- A carriage return stands before a line feed of the first text. -/
  | returnLeft {cs cs' : List Char} :
      SearchedAlike ('\n' :: cs) cs' → SearchedAlike ('\r' :: '\n' :: cs) cs'
  /-- A carriage return stands before a line feed of the second text. -/
  | returnRight {cs cs' : List Char} :
      SearchedAlike cs ('\n' :: cs') → SearchedAlike cs ('\r' :: '\n' :: cs')
  /-- Both texts have a line of statements. -/
  | statement {line line' cs cs' : List Char} : IsStatementLine line → IsStatementLine line' →
      '\n' ∉ line → '\n' ∉ line' → SearchedAlike cs cs' →
        SearchedAlike (line ++ '\n' :: cs) (line' ++ '\n' :: cs')
  /-- Both texts end in a line of statements. -/
  | lastStatement {line line' : List Char} : IsStatementLine line → IsStatementLine line' →
      SearchedAlike line line'

namespace SearchedAlike

variable {cs cs' : List Char}

/-- A text is like itself. -/
theorem refl (cs : List Char) : SearchedAlike cs cs := by
  induction cs with
  | nil => exact .nil
  | cons c cs ih => exact .char c ih

/-- What stands behind the same characters is alike. -/
theorem append (text : List Char) (h : SearchedAlike cs cs') :
    SearchedAlike (text ++ cs) (text ++ cs') := by
  induction text with
  | nil => exact h
  | cons c text ih => exact .char c ih

/-- A run of characters that goes on over line ends, and not through a line of statements, is
followed by the same character in both texts. -/
theorem afterChar?_dropWhile {p : Char → Bool} {b : Char} (hreturn : p '\r' = true)
    (hline : ∀ line rest, IsStatementLine line → afterChar? b ((line ++ rest).dropWhile p) = none)
    (h : SearchedAlike cs cs') :
    Option.Rel SearchedAlike (afterChar? b (cs.dropWhile p)) (afterChar? b (cs'.dropWhile p)) := by
  induction h with
  | nil => exact .none
  | @char c cs cs' hrest ih =>
    by_cases hp : p c = true
    · simpa [List.dropWhile_cons, hp] using ih
    · simp only [List.dropWhile_cons, hp, Bool.false_eq_true, if_false, afterChar?]
      split
      · exact .some hrest
      · exact .none
  | returnLeft _ ih => rwa [List.dropWhile_cons_of_pos hreturn]
  | returnRight _ ih => rwa [List.dropWhile_cons_of_pos hreturn]
  | statement hfirst hsecond _ _ _ _ =>
    rw [hline _ _ hfirst, hline _ _ hsecond]
    exact .none
  | @lastStatement line line' hfirst hsecond =>
    have hnone := hline line [] hfirst
    have hnone' := hline line' [] hsecond
    rw [List.append_nil] at hnone hnone'
    rw [hnone, hnone']
    exact .none

/-- The first character behind blanks is a square bracket in both texts or in none. -/
theorem head?_stripStart (h : SearchedAlike cs cs') :
    ((stripStart cs).head? == some '[') = ((stripStart cs').head? == some '[') := by
  have hrel := h.afterChar?_dropWhile (p := isBlank) (b := '[') (by decide)
    fun line rest hline => hline.afterChar?_stripStart (by decide) rest
  have hsome : ∀ text : List Char, (afterChar? '[' text).isSome = (text.head? == some '[') := by
    intro text
    cases text with
    | nil => rfl
    | cons c text => by_cases hc : c = '[' <;> simp [afterChar?, hc]
  rw [stripStart, stripStart, ← hsome, ← hsome]
  generalize afterChar? '[' (cs.dropWhile isBlank) = behind at hrel ⊢
  generalize afterChar? '[' (cs'.dropWhile isBlank) = behind' at hrel ⊢
  cases hrel <;> rfl

/-- Both texts start with an indexed list or none does. -/
theorem isIndexedInitializer_eq (h : SearchedAlike cs cs') :
    isIndexedInitializer cs = isIndexedInitializer cs' := by
  have hopen := h.afterChar?_dropWhile (p := isBlank) (b := '{') (by decide)
    fun line rest hline => hline.afterChar?_stripStart (by decide) rest
  unfold isIndexedInitializer
  rw [← stripStart, ← stripStart] at hopen
  generalize afterChar? '{' (stripStart cs) = inside at hopen ⊢
  generalize afterChar? '{' (stripStart cs') = inside' at hopen ⊢
  cases hopen with
  | none => rfl
  | @some inside inside' hinside =>
    have hclose := hinside.afterChar?_dropWhile
      (p := fun c => c != ';' && c != '{' && c != '}') (b := '}') (by decide)
      fun line rest hline => hline.afterChar?_dropWhile rest
    dsimp only [bind, Option.bind]
    generalize afterChar? '}' (inside.dropWhile _) = behind at hclose ⊢
    generalize afterChar? '}' (inside'.dropWhile _) = behind' at hclose ⊢
    cases hclose with
    | none => rfl
    | some hbehind => exact hbehind.head?_stripStart

/-- The same initializers are indexed in both texts. -/
theorem initializerFindings_eq (h : SearchedAlike cs cs') (p : Position) :
    initializerFindings p cs = initializerFindings p cs' := by
  have hreturn : ∀ (p : Position) (cs : List Char),
      initializerFindings p ('\r' :: '\n' :: cs) = initializerFindings p ('\n' :: cs) := by
    intro p cs
    simp [initializerFindings, Position.advance]
  induction h generalizing p with
  | nil => rfl
  | char c hrest ih =>
    rw [initializerFindings, ih, hrest.isIndexedInitializer_eq, initializerFindings]
  | returnLeft _ ih => rw [hreturn, ih]
  | returnRight _ ih => rw [hreturn, ih]
  | @statement line line' cs cs' hfirst hsecond hfeed hfeed' _ ih =>
    have hline : ∀ (p : Position) (cs : List Char),
        initializerFindings p ('\n' :: cs) = initializerFindings (p.advance '\n') cs := by
      intro p cs
      simp [initializerFindings]
    rw [hfirst.initializerFindings_append, hsecond.initializerFindings_append, hline, hline,
      advance_foldl_newline hfeed, advance_foldl_newline hfeed', ih]
  | @lastStatement line line' hfirst hsecond =>
    have hnone := hfirst.initializerFindings_append p []
    have hnone' := hsecond.initializerFindings_append p []
    rw [List.append_nil] at hnone hnone'
    rw [hnone, hnone']
    rfl

end SearchedAlike

end BrickLint
