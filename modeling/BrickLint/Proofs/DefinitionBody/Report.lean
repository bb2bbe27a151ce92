import BrickLint.Proofs.BraceScope.Pairs
import BrickLint.Proofs.DefinitionBody.Statement
import BrickLint.Proofs.ResultForm

/-!
# Bodies of definitions

The body of a definition that is continued over several lines is no code. Neither the collection of
functions nor the walk reads it, so of two sources that agree outside such bodies the report differs
only through the two passes that read all lines. When the bodies are lines of complete statements
and stand outside the introduction of types, these two passes give the same as well.
-/

namespace BrickLint

open Text

/-- Whether a line is a definition. -/
def isDefinitionLine (line : List Char) : Bool :=
  (parseDirective? (strip line)).any (·.name == "define")

/-- Whether the next line belongs to the body of a definition: a definition goes on behind a line
that ends in a backslash. -/
def bodyFollows (inBody : Bool) (line : List Char) : Bool :=
  (inBody || isDefinitionLine line) && endsInBackslash line

/-- Two lists of lines are the same except for the bodies of definitions, which go on over the same
lines. The flag tells that the first line belongs to a body. -/
inductive AgreeOutsideBodies : Bool → List (List Char) → List (List Char) → Prop
  /-- There are no lines. -/
  | nil (inBody : Bool) : AgreeOutsideBodies inBody [] []
  /-- The first line is the same. -/
  | same {inBody : Bool} {rest rest' : List (List Char)} (line : List Char) :
      AgreeOutsideBodies (bodyFollows inBody line) rest rest' →
        AgreeOutsideBodies inBody (line :: rest) (line :: rest')
  /-- The first line belongs to a body, which goes on in both lists or in none. -/
  | body {line line' : List Char} {rest rest' : List (List Char)} :
      endsInBackslash line = endsInBackslash line' →
        AgreeOutsideBodies (endsInBackslash line) rest rest' →
          AgreeOutsideBodies true (line :: rest) (line' :: rest')

/-- A body that goes on follows a backslash. -/
theorem endsInBackslash_of_bodyFollows {inBody : Bool} {line : List Char}
    (h : bodyFollows inBody line = true) : endsInBackslash line = true :=
  (Bool.and_eq_true_iff.mp h).2

/-- Behind a line of a body, the body goes on if the line ends in a backslash. -/
theorem bodyFollows_true (line : List Char) : bodyFollows true line = endsInBackslash line := by
  rw [bodyFollows, Bool.true_or, Bool.true_and]

/-- Bodies of definitions hold neither code nor directives. -/
theorem AgreeOutsideBodies.layoutFrom_eq {inBody : Bool} {lines lines' : List (List Char)}
    (h : AgreeOutsideBodies inBody lines lines') {continued : Bool}
    (hcontinued : inBody = true → continued = true) (conds : Conditionals) (number : Nat) :
    layoutFrom conds continued number lines = layoutFrom conds continued number lines' := by
  induction h generalizing continued conds number with
  | nil => rfl
  | @same inBody rest rest' line _ ih =>
    have hrest : ∀ conds, layoutFrom conds (endsInBackslash line) (number + 1) rest =
        layoutFrom conds (endsInBackslash line) (number + 1) rest' :=
      fun conds => ih endsInBackslash_of_bodyFollows conds (number + 1)
    simp only [layoutFrom, hrest]
  | @body line line' rest rest' hends _ ih =>
    simp only [layoutFrom, hcontinued rfl, Bool.true_or, if_true, ← hends]
    exact ih id conds (number + 1)

/-- Reads a line for names of types. Directive lines are passed over. -/
def TypeNames.readLine (catalog : Catalog) (s : TypeNames) (line : List Char) : TypeNames :=
  if (stripStart line).head? = some '#' then s
  else (tokenize line).foldl (TypeNames.step catalog) s

/-- The names of types are collected line by line. -/
theorem collectTypeNames_eq_foldl (catalog : Catalog) (lines : List (List Char)) :
    collectTypeNames catalog lines = lines.foldl (TypeNames.readLine catalog) {} := by
  have hlines : ∀ s : TypeNames,
      ((lines.filter fun line => (stripStart line).head? != some '#').flatMap tokenize).foldl
        (TypeNames.step catalog) s = lines.foldl (TypeNames.readLine catalog) s := by
    induction lines with
    | nil => exact fun s => rfl
    | cons line lines ih =>
      intro s
      rw [List.foldl_cons, ← ih, TypeNames.readLine]
      by_cases hhash : (stripStart line).head? = some '#'
      · simp [hhash]
      · simp [hhash, List.flatMap_cons, List.foldl_append]
  exact hlines {}

/-- Every body of a definition consists of lines of statements, and stands where no type is being
introduced. The flag tells that the first line belongs to a body, and the names of types have been
collected up to it. -/
def HasStatementBodies (catalog : Catalog) (inBody : Bool) (s : TypeNames) :
    List (List Char) → Prop
  | [] => True
  | line :: rest =>
    (inBody = true → IsStatementLine line ∧ s.AtRest) ∧
      HasStatementBodies catalog (bodyFollows inBody line) (s.readLine catalog line) rest

/-- A line of statements leaves no name of a type behind. -/
theorem TypeNames.AtRest.readLine {s : TypeNames} (hs : s.AtRest) {line : List Char}
    (hline : IsStatementLine line) (catalog : Catalog) :
    s.readLine catalog line = { s with pendingEnum := false, lastIdent := none } := by
  have hhash : (stripStart line).head? ≠ some '#' := by
    intro hhead
    have hstart := hline.starts
    rw [hhead] at hstart
    exact absurd hstart (by decide)
  rw [TypeNames.readLine, if_neg hhash, hs.foldl_step_statement hline]

/-- Other statements in the bodies of definitions give the same names of types. -/
theorem AgreeOutsideBodies.foldl_readLine_eq {catalog : Catalog} {inBody : Bool}
    {lines lines' : List (List Char)} (h : AgreeOutsideBodies inBody lines lines') {s : TypeNames}
    (hlines : HasStatementBodies catalog inBody s lines)
    (hlines' : HasStatementBodies catalog inBody s lines') :
    lines.foldl (TypeNames.readLine catalog) s = lines'.foldl (TypeNames.readLine catalog) s := by
  induction h generalizing s with
  | nil => rfl
  | same line _ ih => exact ih hlines.2 hlines'.2
  | @body line line' rest rest' hends _ ih =>
    obtain ⟨hfirst, hrest⟩ := hlines
    obtain ⟨hfirst', hrest'⟩ := hlines'
    obtain ⟨hstatement, hs⟩ := hfirst rfl
    obtain ⟨hstatement', _⟩ := hfirst' rfl
    rw [bodyFollows_true, hs.readLine hstatement] at hrest
    rw [bodyFollows_true, ← hends, hs.readLine hstatement'] at hrest'
    rw [List.foldl_cons, List.foldl_cons, hs.readLine hstatement, hs.readLine hstatement']
    exact ih hrest hrest'

/-- A carriage return is the last character of a row, or there is none to drop. -/
theorem dropReturn_cases (row : List Char) :
    row = dropReturn row ∨ row = dropReturn row ++ ['\r'] := by
  unfold dropReturn
  split
  case isTrue hlast =>
    obtain ⟨start, rfl⟩ := List.getLast?_eq_some_iff.mp hlast
    exact Or.inr (by rw [List.dropLast_concat])
  case isFalse => exact Or.inl rfl

/-- A line of statements may end in a carriage return. -/
theorem IsStatementLine.of_dropReturn {row : List Char} (h : IsStatementLine (dropReturn row)) :
    IsStatementLine row := by
  rcases dropReturn_cases row with hrow | hrow
  · rwa [← hrow] at h
  · generalize dropReturn row = line at h hrow
    subst hrow
    obtain ⟨statements, tail, hline, htail⟩ := h.ends
    have hstop : (stripStart line).head?.isSome = true := by
      cases hhead : (stripStart line).head? with
      | none => simpa [hhead] using h.starts
      | some c => rfl
    refine ⟨?_, ?_, ?_, ⟨statements, tail ++ ['\r'], by simp [hline], ?_⟩⟩
    · have hstart : stripStart (line ++ ['\r']) = stripStart line ++ ['\r'] := by
        obtain ⟨c, more, hmore⟩ := List.exists_cons_of_ne_nil (by simpa using hstop)
        rw [stripStart, List.dropWhile_append, ← stripStart, hmore]
        rfl
      obtain ⟨c, hc⟩ := Option.isSome_iff_exists.mp hstop
      rw [hstart, List.head?_append, hc, Option.some_or, ← hc]
      exact h.starts
    · intro c hc
      rcases List.mem_append.mp hc with hc | hc
      · exact h.no_brace c hc
      · rw [List.mem_singleton.mp hc]
        decide
    · have htokens : tokenize (line ++ ['\r']) = tokenize line := by
        rw [tokenize, tokensFrom_append_separator (by decide) (Nat.zero_le _), tokenize]
        exact List.append_nil _
      rw [htokens]
      exact h.no_type
    · intro c hc
      rcases List.mem_append.mp hc with hc | hc
      · exact htail c hc
      · rw [List.mem_singleton.mp hc]
        exact Or.inl (by decide)

/-- Rows that differ in the carriage return at their end are alike to the search for indexed
initializers. -/
theorem searchedAlike_of_dropReturn_eq {row row' cs cs' : List Char}
    (hrow : dropReturn row = dropReturn row') (h : SearchedAlike cs cs') :
    SearchedAlike (row ++ '\n' :: cs) (row' ++ '\n' :: cs') := by
  have hline : SearchedAlike ('\n' :: cs) ('\n' :: cs') := h.char '\n'
  rcases dropReturn_cases row with hleft | hleft <;>
    rcases dropReturn_cases row' with hright | hright
  · rw [hleft, hright, hrow]
    exact hline.append _
  · rw [hleft, hright, hrow, List.append_assoc]
    exact hline.returnRight.append _
  · rw [hleft, hright, hrow, List.append_assoc]
    exact hline.returnLeft.append _
  · rw [hleft, hright, hrow]
    exact hline.append _

/-- Dropping carriage returns keeps the number of rows. -/
theorem length_dropReturns (lines : List (List Char)) :
    (dropReturns lines).length = lines.length := by
  fun_induction dropReturns lines with
  | case1 => rfl
  | case2 last => rfl
  | case3 row next rest ih => simp [ih]

/-- Rows that are the same or hold statements are alike to the search for indexed initializers. -/
theorem searchedAlike_of_forall₂ {lines lines' : List (List Char)}
    (h : List.Forall₂
      (fun line line' => line = line' ∨ IsStatementLine line ∧ IsStatementLine line')
      (dropReturns lines) (dropReturns lines'))
    (hfeed : ∀ line ∈ lines, '\n' ∉ line) (hfeed' : ∀ line ∈ lines', '\n' ∉ line) :
    SearchedAlike (['\n'].intercalate lines) (['\n'].intercalate lines') := by
  have hjoin : ∀ (row next : List Char) (rest : List (List Char)),
      ['\n'].intercalate (row :: next :: rest) = row ++ '\n' :: ['\n'].intercalate (next :: rest) :=
    fun row next rest => by simp [List.intercalate]
  have hlength : lines.length = lines'.length := by
    rw [← length_dropReturns, h.length_eq, length_dropReturns]
  fun_induction dropReturns lines generalizing lines' with
  | case1 =>
    obtain rfl := List.length_eq_zero_iff.mp hlength.symm
    exact .nil
  | case2 last =>
    obtain ⟨last', rfl⟩ := List.length_eq_one_iff.mp hlength.symm
    rcases (List.forall₂_cons.mp h).1 with rfl | ⟨hlast, hlast'⟩
    · exact .refl _
    · simpa [List.intercalate] using SearchedAlike.lastStatement hlast hlast'
  | case3 row next rest ih =>
    obtain ⟨row', more', rfl⟩ := List.exists_cons_of_length_eq_add_one hlength.symm
    obtain ⟨next', rest', rfl⟩ :=
      List.exists_cons_of_length_eq_add_one (Nat.succ.inj hlength.symm)
    obtain ⟨hrow, hrows⟩ := List.forall₂_cons.mp h
    obtain ⟨hfirst, hfeed⟩ := List.forall_mem_cons.mp hfeed
    obtain ⟨hfirst', hfeed'⟩ := List.forall_mem_cons.mp hfeed'
    have hrest := ih hrows hfeed hfeed' (Nat.succ.inj hlength)
    rw [hjoin, hjoin]
    rcases hrow with hrow | ⟨hrow, hrow'⟩
    · exact searchedAlike_of_dropReturn_eq hrow hrest
    · exact .statement hrow.of_dropReturn hrow'.of_dropReturn hfirst hfirst' hrest

/-- Lines that agree outside bodies of statements are the same or hold statements. -/
theorem AgreeOutsideBodies.forall₂ {catalog : Catalog} {inBody : Bool} {s s' : TypeNames}
    {lines lines' : List (List Char)} (h : AgreeOutsideBodies inBody lines lines')
    (hlines : HasStatementBodies catalog inBody s lines)
    (hlines' : HasStatementBodies catalog inBody s' lines') :
    List.Forall₂ (fun line line' => line = line' ∨ IsStatementLine line ∧ IsStatementLine line')
      lines lines' := by
  induction h generalizing s s' with
  | nil => exact .nil
  | same line _ ih => exact .cons (Or.inl rfl) (ih hlines.2 hlines'.2)
  | body hends _ ih =>
    have hrest := hlines.2
    have hrest' := hlines'.2
    rw [bodyFollows_true] at hrest
    rw [bodyFollows_true, ← hends] at hrest'
    exact .cons (Or.inr ⟨(hlines.1 rfl).1, (hlines'.1 rfl).1⟩) (ih hrest hrest')

/-- Other statements in the bodies of definitions give the same indexed initializers. -/
theorem AgreeOutsideBodies.initializerFindings_eq {catalog : Catalog} {text text' : List Char}
    (h : AgreeOutsideBodies false (codeRows text) (codeRows text'))
    (hlines : HasStatementBodies catalog false {} (codeRows text))
    (hlines' : HasStatementBodies catalog false {} (codeRows text')) (p : Position) :
    initializerFindings p text = initializerFindings p text' := by
  have halike := searchedAlike_of_forall₂ (h.forall₂ hlines hlines')
    (fun _ => newline_not_mem_of_mem_rows) (fun _ => newline_not_mem_of_mem_rows)
  rw [rows, rows, List.intercalate_splitOn, List.intercalate_splitOn] at halike
  exact halike.initializerFindings_eq p

/-- Two reports say the same about their sources. -/
structure DeclarationReport.Same (r r' : DeclarationReport) : Prop where
  /-- They have the same findings. -/
  findings : r.findings = r'.findings
  /-- They have the same functions. -/
  functions : r.functions = r'.functions
  /-- They have the same names of definitions. -/
  defined : r.defined = r'.defined
  /-- They have the same variables that are never used. -/
  unused : r.unused = r'.unused
  /-- They have the same names of types. -/
  types : r.types.types = r'.types.types
  /-- They have the same enumerators. -/
  enumConstants : r.types.enumConstants = r'.types.enumConstants

/-- A report is determined by the layout of the source, the names of types and the indexed
initializers. -/
theorem same_checkDeclarations (catalog : Catalog) (config : Config) {text text' : List Char}
    (hlayout : layout (codeRows text) = layout (codeRows text'))
    (htypes : (collectTypeNames catalog (codeRows text)).types =
      (collectTypeNames catalog (codeRows text')).types)
    (hconstants : (collectTypeNames catalog (codeRows text)).enumConstants =
      (collectTypeNames catalog (codeRows text')).enumConstants)
    (hinitializers : initializerFindings .start text = initializerFindings .start text') :
    (checkDeclarations catalog config text).Same (checkDeclarations catalog config text') where
  findings := by simp only [checkDeclarations, hlayout, htypes, hconstants, hinitializers]
  functions := by simp only [checkDeclarations, hlayout, htypes]
  defined := by simp only [checkDeclarations, hlayout]
  unused := by simp only [checkDeclarations, hlayout, htypes, hconstants]
  types := htypes
  enumConstants := hconstants

/-- The indexed initializers of a source can be read off its report. -/
theorem filter_findings_checkDeclarations (catalog : Catalog) (config : Config) (text : List Char) :
    (checkDeclarations catalog config text).findings.filter (·.cause = .indexedInitializer) =
      initializerFindings .start text := by
  have hnamed : ∀ findings : List Finding, (∀ f ∈ findings, f.IsNamed (codeRows text)) →
      findings.filter (·.cause = .indexedInitializer) = [] := by
    intro findings hfindings
    refine List.filter_eq_nil_iff.mpr fun f hf => ?_
    obtain ⟨cause, name, line, column, rfl, hcause, _⟩ := hfindings f hf
    intro hindexed
    rw [show cause = .indexedInitializer by simpa using hindexed] at hcause
    cases hcause
  have hcode : ∀ line ∈ (layout (codeRows text)).code,
      (codeRows text)[line.number]? = some line.text := fun line hline => text_of_mem_layout hline
  have hwalk : (checkDeclarations catalog config text).walk.IsAnchored (codeRows text) :=
    isAnchored_walkCode (environmentOf catalog config text) hcode
  have hfunctions : ∀ f ∈ (environmentOf catalog config text).functions.findings,
      f.IsNamed (codeRows text) := fun f hf => isNamed_of_mem_collectFunctions hcode hf
  have hcalls : ((checkDeclarations catalog config text).walk.calls.filterMap
      (callFinding? (environmentOf catalog config text))).filter
        (·.cause = .indexedInitializer) = [] := by
    refine List.filter_eq_nil_iff.mpr fun f hf => ?_
    obtain ⟨call, _, hfinding⟩ := List.mem_filterMap.mp hf
    obtain ⟨_, best, rfl⟩ := eq_of_callFinding? hfinding
    simp
  have hinitializers : (initializerFindings .start text).filter (·.cause = .indexedInitializer) =
      initializerFindings .start text :=
    List.filter_eq_self.mpr fun f hf => by simp [cause_of_mem_initializerFindings hf]
  have hunused : (if config.reportUnusedVariables then
      (checkDeclarations catalog config text).unused.map unusedFinding else []).filter
        (·.cause = .indexedInitializer) = [] := by
    refine List.filter_eq_nil_iff.mpr fun f hf => ?_
    obtain ⟨_, hf⟩ := List.mem_ite_nil_right.mp hf
    obtain ⟨v, _, rfl⟩ := List.mem_map.mp hf
    simp [unusedFinding]
  calc (checkDeclarations catalog config text).findings.filter (·.cause = .indexedInitializer)
      = (((environmentOf catalog config text).functions.findings ++
          (checkDeclarations catalog config text).walk.findings ++
          (checkDeclarations catalog config text).walk.calls.filterMap
            (callFinding? (environmentOf catalog config text)) ++
          initializerFindings .start text ++
          (if config.reportUnusedVariables then
            (checkDeclarations catalog config text).unused.map unusedFinding else [])).filter
            (·.cause = .indexedInitializer)) := rfl
    _ = initializerFindings .start text := by
      simp only [List.filter_append, hnamed _ hfunctions, hnamed _ hwalk.findings,
        hcalls, hinitializers, hunused, List.append_nil, List.nil_append]

/-- Of two sources that agree outside the bodies of their definitions, the functions and the walk
see the same code and the same definitions. So the reports are the same if and only if the names of
types and the indexed initializers are, which are searched for in all lines. And they are the same
whenever the bodies consist of lines of statements and stand outside the introduction of types. -/
theorem same_report_of_agreeOutsideBodies (catalog : Catalog) (config : Config)
    {text text' : List Char} (h : AgreeOutsideBodies false (codeRows text) (codeRows text')) :
    layout (codeRows text) = layout (codeRows text') ∧
      ((checkDeclarations catalog config text).Same (checkDeclarations catalog config text') ↔
        (collectTypeNames catalog (codeRows text)).types =
            (collectTypeNames catalog (codeRows text')).types ∧
          (collectTypeNames catalog (codeRows text)).enumConstants =
            (collectTypeNames catalog (codeRows text')).enumConstants ∧
          initializerFindings .start text = initializerFindings .start text') ∧
      (HasStatementBodies catalog false {} (codeRows text) →
        HasStatementBodies catalog false {} (codeRows text') →
          (checkDeclarations catalog config text).Same
            (checkDeclarations catalog config text')) := by
  have hlayout : layout (codeRows text) = layout (codeRows text') :=
    h.layoutFrom_eq (by simp) {} 0
  refine ⟨hlayout, ⟨fun hsame => ⟨hsame.types, hsame.enumConstants, ?_⟩, ?_⟩, ?_⟩
  · rw [← filter_findings_checkDeclarations catalog config, hsame.findings,
      filter_findings_checkDeclarations]
  · rintro ⟨htypes, hconstants, hinitializers⟩
    exact same_checkDeclarations catalog config hlayout htypes hconstants hinitializers
  · intro hbodies hbodies'
    have hnames : collectTypeNames catalog (codeRows text) =
        collectTypeNames catalog (codeRows text') := by
      rw [collectTypeNames_eq_foldl, collectTypeNames_eq_foldl]
      exact h.foldl_readLine_eq hbodies hbodies'
    exact same_checkDeclarations catalog config hlayout (congrArg _ hnames) (congrArg _ hnames)
      (h.initializerFindings_eq hbodies hbodies' .start)

/-- A definition whose body is one call. -/
def callBody : List Char :=
  "#define GO \\\nrun(1);".toList

/-- The same definition with two statements. -/
def stopBody : List Char :=
  "#define GO \\\nx = 2; stop();".toList

/-- Two definitions with different statements in their bodies give the same report. -/
theorem same_report_callBody : AgreeOutsideBodies false (codeRows callBody) (codeRows stopBody) ∧
    (checkDeclarations typeCatalog {} callBody).Same
      (checkDeclarations typeCatalog {} stopBody) := by
  have hagree : AgreeOutsideBodies false (codeRows callBody) (codeRows stopBody) :=
    .same _ (.body rfl (.nil _))
  have hcall : IsStatementLine "run(1);".toList :=
    ⟨by decide, by simp, by decide, "run(1)".toList, [], rfl, by simp⟩
  have hstop : IsStatementLine "x = 2; stop();".toList :=
    ⟨by decide, by simp, by decide, "x = 2; stop()".toList, [], rfl, by simp⟩
  have hrest : ∀ line, (stripStart line).head? = some '#' →
      (({} : TypeNames).readLine typeCatalog line).AtRest := by
    intro line hline
    rw [TypeNames.readLine, if_pos hline]
    exact ⟨rfl, rfl, rfl⟩
  obtain ⟨_, _, hsame⟩ := same_report_of_agreeOutsideBodies typeCatalog {} hagree
  exact ⟨hagree, hsame ⟨by simp, fun _ => ⟨hcall, hrest _ rfl⟩, trivial⟩
    ⟨by simp, fun _ => ⟨hstop, hrest _ rfl⟩, trivial⟩⟩

/-- A definition whose body defines a type. -/
def typedefBody : List Char :=
  "#define M \\\ntypedef int T;".toList

/-- A definition whose body is empty. -/
def emptyBody : List Char :=
  "#define M \\\n".toList

/-- Not all bodies of definitions are skipped: a type that is defined in a body is collected. -/
theorem not_same_types_typedefBody :
    ¬∀ (catalog : Catalog) (config : Config) (source source' : List Char),
      AgreeOutsideBodies false (codeRows (scrub source)) (codeRows (scrub source')) →
        ∀ name, name ∈ (checkDeclarations catalog config (scrub source)).types.types ↔
          name ∈ (checkDeclarations catalog config (scrub source')).types.types := by
  intro h
  have hrows : codeRows (scrub typedefBody) = ["#define M \\".toList, "typedef int T;".toList] := by
    cbv
  have hrows' : codeRows (scrub emptyBody) = ["#define M \\".toList, []] := by cbv
  have hagree : AgreeOutsideBodies false (codeRows (scrub typedefBody))
      (codeRows (scrub emptyBody)) := by
    rw [hrows, hrows']
    exact .same _ (.body rfl (.nil _))
  have htypes : (checkDeclarations typeCatalog {} (scrub typedefBody)).types.types = ["T"] := by cbv
  have htypes' : (checkDeclarations typeCatalog {} (scrub emptyBody)).types.types = [] := by cbv
  have hname := (h typeCatalog {} typedefBody emptyBody hagree "T").mp
    (htypes ▸ List.mem_singleton_self _)
  rw [htypes'] at hname
  exact List.not_mem_nil hname

end BrickLint
