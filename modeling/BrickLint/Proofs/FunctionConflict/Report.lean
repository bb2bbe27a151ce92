import BrickLint.Proofs.FunctionConflict.Standing
import BrickLint.Proofs.KnownFunction
import BrickLint.Proofs.Redeclaration.Report

/-!
# Conflicts of functions

A definition is compared with the header that stands for its function before it. So a conflict is
reported at a definition if and only if there is a definition before it and one of the two kinds of
definition, this one or an earlier one, stands outside conditions. A prototype is never reported,
and no report names its line.
-/

namespace BrickLint

open Text

/-- Whether a cause is a conflict of two definitions of a function. -/
def Cause.isConflict : Cause → Bool
  | .functionRedeclared _ _ | .functionConflict _ _ => true
  | _ => false

namespace FunctionDecl

/-- The conflict of a header with the one that stands before it. -/
def conflictWith? (h standing : FunctionDecl) : Option Cause :=
  if !(standing.isDefinition && h.isDefinition) then none
  else if standing.isFirm && h.isFirm then some (.functionRedeclared h.name standing.line)
  else if standing.isFirm || h.isFirm then some (.functionConflict h.name standing.line)
  else none

/-- The conflict of a header with the headers before it. -/
def conflict? (before : List FunctionDecl) (h : FunctionDecl) : Option Cause :=
  (standingFor? before h.name).bind h.conflictWith?

/-- A conflict is one of two definitions. -/
theorem isDefinition_of_conflictWith? {h standing : FunctionDecl} {cause : Cause}
    (hcause : h.conflictWith? standing = some cause) :
    standing.isDefinition = true ∧ h.isDefinition = true := by
  unfold conflictWith? at hcause
  split at hcause
  · cases hcause
  case isFalse hboth => simpa using hboth

end FunctionDecl

namespace FunctionTable

/-- The findings about conflicts. -/
def conflicts (table : FunctionTable) : List Finding :=
  table.findings.filter (·.cause.isConflict)

/-- A second definition is reported as a conflict with the one that stands, if it is one. -/
theorem conflicts_addDefinition (table : FunctionTable) {existing decl : FunctionDecl}
    (hexisting : existing.isPrototype = false) (hdecl : decl.isPrototype = false) :
    (table.addDefinition existing decl).conflicts =
      table.conflicts ++ ((decl.conflictWith? existing).map decl.finding).toList := by
  have hreplace : ∀ t : FunctionTable,
      (if existing.conditional && !decl.conditional then t.replace decl else t).conflicts =
        t.conflicts := by
    intro t
    split <;> rfl
  unfold addDefinition
  rw [hreplace]
  cases hfirst : existing.conditional <;> cases hsecond : decl.conditional <;>
    simp [FunctionDecl.conflictWith?, FunctionDecl.isFirm, FunctionDecl.isDefinition, hexisting,
      hdecl, hfirst, hsecond, conflicts, report, List.filter_append, FunctionDecl.finding,
      Cause.isConflict]

/-- A header is reported as a conflict with the one that stands, if it is one. -/
theorem conflicts_add (catalog : Catalog) (config : Config) (table : FunctionTable)
    (decl : FunctionDecl) :
    (table.add catalog config decl).conflicts = table.conflicts ++
      (((table.find? decl.name).bind decl.conflictWith?).map decl.finding).toList := by
  unfold add
  split
  case h_1 hnone =>
    have hfirst : (table.addFirst catalog config decl).conflicts = table.conflicts := by
      unfold addFirst
      dsimp only
      split
      · simp [conflicts, report, List.filter_append, FunctionDecl.finding, Cause.isConflict]
      · rfl
    rw [hfirst, hnone, Option.bind_none, Option.map_none, Option.toList_none, List.append_nil]
  case h_2 existing hsome =>
    rw [hsome, Option.bind_some]
    cases hexisting : existing.isPrototype with
    | true =>
      have hnone : decl.conflictWith? existing = none := by
        simp [FunctionDecl.conflictWith?, FunctionDecl.isDefinition, hexisting]
      cases hdecl : decl.isPrototype with
      | true => simp [hnone]
      | false =>
        rw [hnone, Option.map_none, Option.toList_none, List.append_nil]
        rfl
    | false =>
      cases hdecl : decl.isPrototype with
      | true =>
        have hnone : decl.conflictWith? existing = none := by
          simp [FunctionDecl.conflictWith?, FunctionDecl.isDefinition, hdecl]
        simp [hnone]
      | false => simpa using conflicts_addDefinition table hexisting hdecl

/-- The conflicts of a table are those of its headers with the headers before them. -/
theorem mem_conflicts_foldl_add {catalog : Catalog} {config : Config}
    {headers : List FunctionDecl} {f : Finding} :
    f ∈ (headers.foldl (add catalog config) {}).conflicts ↔
      ∃ before h after cause, headers = before ++ h :: after ∧ h.conflict? before = some cause ∧
        f = h.finding cause := by
  induction headers using List.reverseRecOn with
  | nil => simp [conflicts]
  | append_singleton headers last ih =>
    have hfind : (headers.foldl (add catalog config) {}).find? last.name =
        standingFor? headers last.name := by
      rw [find?, functions_foldl_add, find?_standingFunctions]
    rw [List.foldl_append, List.foldl_cons, List.foldl_nil, conflicts_add, hfind, List.mem_append,
      ih, Option.mem_toList, Option.map_eq_some_iff]
    constructor
    · rintro (⟨before, h, after, cause, rfl, hcause, hf⟩ | ⟨cause, hcause, hf⟩)
      · exact ⟨before, h, after ++ [last], cause, by simp, hcause, hf⟩
      · exact ⟨headers, last, [], cause, rfl, hcause, hf.symm⟩
    · rintro ⟨before, h, after, cause, hsplit, hcause, hf⟩
      cases after using List.reverseRecOn with
      | nil =>
        obtain ⟨rfl, hlast⟩ := List.append_inj' hsplit rfl
        obtain rfl := List.singleton_inj.mp hlast
        exact Or.inr ⟨cause, hcause, hf.symm⟩
      | append_singleton after final =>
        rw [← List.cons_append, ← List.append_assoc] at hsplit
        obtain ⟨rfl, _⟩ := List.append_inj' hsplit rfl
        exact Or.inl ⟨before, h, after, cause, rfl, hcause, hf⟩

end FunctionTable

/-- Whether a cause is about a variable. -/
def Cause.isAboutVariable : Cause → Bool
  | .variableRedeclared _ _ | .variableShadowsFunction _ | .variableShadowsConstant _
  | .undefinedVariable _ => true
  | _ => false

namespace Walk

/-- What is new among the findings of a walk is about variables. -/
def AddsAboutVariables (w w' : Walk) : Prop :=
  ∀ f ∈ w'.findings, f ∈ w.findings ∨ f.cause.isAboutVariable = true

variable {w w' : Walk}

/-- Nothing is new when the findings stay. -/
theorem AddsAboutVariables.of_eq (h : w'.findings = w.findings) : AddsAboutVariables w w' :=
  fun _ hf => Or.inl (h ▸ hf)

/-- Reporting something about a variable. -/
theorem AddsAboutVariables.report (h : AddsAboutVariables w w') {f : Finding}
    (hf : f.cause.isAboutVariable = true) : AddsAboutVariables w (w'.report f) := by
  intro g hg
  rcases List.mem_append.mp hg with hbefore | hnew
  · exact h g hbefore
  · rw [List.mem_singleton.mp hnew]
    exact Or.inr hf

/-- A declaration reports something about a variable. -/
theorem addsAboutVariables_declare (catalog : Catalog) (config : Config) (w : Walk) (v : Variable) :
    AddsAboutVariables w (w.declare catalog config v) := by
  have hkept : AddsAboutVariables w { w with scopes := w.scopes.declare v } := .of_eq rfl
  unfold Walk.declare
  split
  · split
    · exact .of_eq rfl
    · exact AddsAboutVariables.report (.of_eq rfl) rfl
  · dsimp only
    rcases shadowing?_cases catalog config v with hnone | ⟨cause, rfl | rfl, hsome⟩
    · rw [hnone]
      exact hkept
    · rw [hsome]
      exact hkept.report rfl
    · rw [hsome]
      exact hkept.report rfl

/-- A reference reports something about a variable. -/
theorem addsAboutVariables_reference (env : Environment) (w : Walk) (line : Nat)
    (prev : Option Token) (token : Token) (rest : List Token) :
    AddsAboutVariables w (w.reference env line prev token rest) := by
  unfold reference
  split
  · unfold noteCall
    split <;> exact .of_eq rfl
  split
  · exact .of_eq rfl
  split
  · exact .of_eq rfl
  · unfold resolve
    split
    · exact .of_eq rfl
    split
    · exact .of_eq rfl
    split
    · exact .of_eq rfl
    · exact AddsAboutVariables.report (.of_eq rfl) rfl

end Walk

/-- A step reports something about variables. -/
theorem WalkStep.addsAboutVariables (env : Environment) (step : WalkStep) :
    step.before.AddsAboutVariables (step.after env) := by
  have hreference := Walk.addsAboutVariables_reference env step.before step.code.number step.prev
    step.token step.rest
  unfold WalkStep.after WalkStep.read
  split
  · exact .of_eq (Walk.findings_punct _ _ _)
  · exact .of_eq rfl
  · unfold Walk.ident
    split
    · exact .of_eq rfl
    split
    · exact .of_eq rfl
    split
    · exact .of_eq rfl
    split
    · unfold Walk.tag
      split <;> exact .of_eq rfl
    split
    · exact .of_eq rfl
    split
    · exact .of_eq rfl
    split
    · exact .of_eq rfl
    dsimp only
    unfold Walk.name
    split
    · split <;> exact .of_eq rfl
    split
    · exact .of_eq rfl
    split
    · split
      · unfold Walk.declarator
        split
        · exact .of_eq rfl
        split
        · exact .of_eq rfl
        · exact Walk.addsAboutVariables_declare env.catalog env.config step.before _
      · exact hreference
    · exact hreference

/-- What steps find is about variables. -/
theorem isAboutVariable_of_isRun {env : Environment} {w w' : Walk} {steps : List WalkStep}
    (hrun : IsRun env w steps w') : w.AddsAboutVariables w' := by
  induction steps generalizing w with
  | nil =>
    obtain rfl : w = w' := hrun
    exact .of_eq rfl
  | cons step steps ih =>
    obtain ⟨rfl, hrun⟩ := hrun
    intro f hf
    rcases ih hrun f hf with hbefore | hnew
    · exact step.addsAboutVariables env f hbefore
    · exact Or.inr hnew

/-- The headers of a scrubbed source, in order. -/
def sourceHeaders (catalog : Catalog) (text : List Char) : List FunctionDecl :=
  (layout (codeRows text)).code.filterMap (functionOfLine? (typesOfSource catalog text))

/-- The headers of a function of a scrubbed source, in order. -/
def headersOf (catalog : Catalog) (text : List Char) (name : String) : List FunctionDecl :=
  (sourceHeaders catalog text).filter (·.name == name)

/-- The headers of a source are on different lines, in the order of the lines. -/
theorem lines_sourceHeaders (catalog : Catalog) (text : List Char) :
    (sourceHeaders catalog text).Pairwise (·.line < ·.line) := by
  refine (numbers_layout (codeRows text)).filterMap _ fun a b hlt h hh e he => ?_
  obtain ⟨_, _, rfl⟩ := Option.map_eq_some_iff.mp hh
  obtain ⟨_, _, rfl⟩ := Option.map_eq_some_iff.mp he
  exact hlt

/-- A header stands under a condition if and only if the directives above it leave a group open. -/
theorem conditional_iff {catalog : Catalog} {text : List Char} {h : FunctionDecl}
    (hh : h ∈ sourceHeaders catalog text) :
    h.conditional = true ↔
      0 < (Conditionals.follow {} (directivesOf false ((codeRows text).take h.line))).depth := by
  obtain ⟨line, hline, hheader⟩ := List.mem_filterMap.mp hh
  obtain ⟨header, _, rfl⟩ := Option.map_eq_some_iff.mp hheader
  obtain ⟨above, hnumber, hpath⟩ := path_of_mem_layoutFrom hline
  rw [Nat.zero_add] at hnumber
  rw [hnumber, hpath, Conditionals.path, Conditionals.depth, List.length_pos_iff]
  simp

/-- The functions of a report are those that stand among the headers of the source. -/
theorem functions_checkDeclarations (catalog : Catalog) (config : Config) (text : List Char) :
    (checkDeclarations catalog config text).functions =
      standingFunctions (sourceHeaders catalog text) :=
  FunctionTable.functions_foldl_add catalog config (sourceHeaders catalog text)

/-- The conflicts that a report shows are those of its headers with the headers before them. -/
theorem mem_findings_of_isConflict {catalog : Catalog} {config : Config} {text : List Char}
    {f : Finding}
    (hf : f.cause.isConflict = true) :
    f ∈ (checkDeclarations catalog config text).findings ↔
      ∃ before h after cause, sourceHeaders catalog text = before ++ h :: after ∧
        h.conflict? before = some cause ∧ f = h.finding cause := by
  have htable : f ∈ (checkDeclarations catalog config text).findings ↔
      f ∈ (environmentOf catalog config text).functions.findings := by
    constructor
    · intro hfound
      cases origin_of_mem_checkDeclarations hfound with
      | function hfunction => exact hfunction
      | walk hwalk =>
        have hrun := isRun_walkTrace catalog config text
        rcases isAboutVariable_of_isRun hrun f hwalk with hnone | hvariable
        · exact absurd hnone List.not_mem_nil
        · cases hcause : f.cause <;> simp [hcause, Cause.isAboutVariable, Cause.isConflict]
            at hvariable hf
      | call call best _ _ heq =>
        subst heq
        cases hf
      | initializer hinitializer =>
        rw [cause_of_mem_initializerFindings hinitializer] at hf
        cases hf
      | unused v _ heq =>
        subst heq
        cases hf
    · intro hfunctions
      simp only [checkDeclarations, List.mem_append]
      exact Or.inl (Or.inl (Or.inl (Or.inl hfunctions)))
  rw [htable, ← @FunctionTable.mem_conflicts_foldl_add catalog config, FunctionTable.conflicts,
    List.mem_filter]
  exact ⟨fun hfunctions => ⟨hfunctions, hf⟩, fun hfunctions => hfunctions.1⟩

/-- A conflict is reported at a header if and only if it has this conflict with the headers before
it. -/
theorem mem_findings_iff_conflict? {catalog : Catalog} {config : Config} {text : List Char}
    {h : FunctionDecl}
    {before after : List FunctionDecl} (hsplit : sourceHeaders catalog text = before ++ h :: after)
    {cause : Cause} (hcause : cause.isConflict = true) :
    h.finding cause ∈ (checkDeclarations catalog config text).findings ↔
      h.conflict? before = some cause := by
  rw [mem_findings_of_isConflict hcause]
  constructor
  · rintro ⟨before', e, after', cause', hsplit', hconflict, hsame⟩
    -- The two headers are on the same line, so they are the same.
    have hline : (h.line : Int) = e.line := congrArg Finding.line hsame
    have hlines : (before ++ h :: after).Pairwise (·.line < ·.line) :=
      hsplit ▸ lines_sourceHeaders catalog text
    obtain ⟨rfl, rfl⟩ := eq_of_split hlines (by omega) (by omega) (hsplit.symm.trans hsplit')
    rw [hconflict, show cause = cause' from congrArg Finding.cause hsame]
  · intro hconflict
    exact ⟨before, h, after, cause, hsplit, hconflict, rfl⟩

/-- Among the headers before, a definition stands if and only if there is one. -/
theorem isDefinition_of_standing? {headers : List FunctionDecl} {e : FunctionDecl}
    (h : standing? headers = some e) :
    e.isDefinition = true ↔ ∃ d ∈ headers, d.isDefinition = true := by
  refine ⟨fun he => ⟨e, mem_of_standing? h, he⟩, fun ⟨d, hd, hdefinition⟩ => ?_⟩
  rcases Option.or_eq_some_iff.mp h with hfirm | ⟨_, hrest⟩
  · exact FunctionDecl.isDefinition_of_isFirm (List.find?_some hfirm)
  rcases Option.or_eq_some_iff.mp hrest with hfirst | ⟨hnone, _⟩
  · exact List.find?_some hfirst
  · exact absurd hdefinition (List.find?_eq_none.mp hnone d hd)

/-- Among the headers before, a definition outside conditions stands if and only if there is one. -/
theorem isFirm_of_standing? {headers : List FunctionDecl} {e : FunctionDecl}
    (h : standing? headers = some e) : e.isFirm = true ↔ ∃ d ∈ headers, d.isFirm = true := by
  refine ⟨fun he => ⟨e, mem_of_standing? h, he⟩, fun ⟨d, hd, hfirm⟩ => ?_⟩
  rcases Option.or_eq_some_iff.mp h with hfirst | ⟨hnone, _⟩
  · exact List.find?_some hfirst
  · exact absurd hfirm (List.find?_eq_none.mp hnone d hd)

namespace FunctionDecl

/-- An error of the given kind stands at a header. -/
def IsReportedAs (kind : String → Nat → Cause) (h : FunctionDecl) (report : DeclarationReport) :
    Prop :=
  ∃ line, h.finding (kind h.name line) ∈ report.findings

/-- An error stands at a header: it is declared already, or it conflicts with a declaration. -/
def IsReported (h : FunctionDecl) (report : DeclarationReport) : Prop :=
  h.IsReportedAs .functionRedeclared report ∨ h.IsReportedAs .functionConflict report

variable {catalog : Catalog} {config : Config} {text : List Char} {h : FunctionDecl}
  {before after : List FunctionDecl}

/-- A header of a function, among the headers of the source. -/
theorem exists_split_sourceHeaders {name : String}
    (hsplit : headersOf catalog text name = before ++ h :: after) :
    ∃ before' after', sourceHeaders catalog text = before' ++ h :: after' ∧ h.name = name ∧
      standingFor? before' h.name = standing? before := by
  obtain ⟨before', rest, hall, hbefore, hrest⟩ := List.filter_eq_append_iff.mp hsplit
  obtain ⟨passed, after', rfl, hpassed, hname, _⟩ := List.filter_eq_cons_iff.mp hrest
  have hname := eq_of_beq hname
  have hnone : passed.filter (·.name == name) = [] := List.filter_eq_nil_iff.mpr hpassed
  refine ⟨before' ++ passed, after', by simp [hall], hname, ?_⟩
  rw [standingFor?, hname, List.filter_append, hbefore, hnone, List.append_nil]

/-- A definition is declared already if and only if it and an earlier one stand outside
conditions. -/
theorem isReportedAs_redeclared_iff {name : String}
    (hsplit : headersOf catalog text name = before ++ h :: after) :
    h.IsReportedAs .functionRedeclared (checkDeclarations catalog config text) ↔
      h.isFirm = true ∧ ∃ e ∈ before, e.isFirm = true := by
  obtain ⟨before', after', hall, -, hstanding⟩ := exists_split_sourceHeaders hsplit
  have hfound : ∀ line, h.finding (.functionRedeclared h.name line) ∈
      (checkDeclarations catalog config text).findings ↔
        (standing? before).bind h.conflictWith? = some (.functionRedeclared h.name line) := by
    intro line
    rw [mem_findings_iff_conflict? hall rfl, conflict?, hstanding]
  unfold IsReportedAs
  simp only [hfound]
  constructor
  · rintro ⟨line, hconflict⟩
    obtain ⟨first, hfirst, hcause⟩ := Option.bind_eq_some_iff.mp hconflict
    rw [← isFirm_of_standing? hfirst]
    unfold conflictWith? at hcause
    split at hcause
    · cases hcause
    split at hcause
    case isTrue hboth => exact (Bool.and_eq_true_iff.mp hboth).symm
    split at hcause <;> cases hcause
  · rintro ⟨hfirm, e, he, hearlier⟩
    cases hfirst : standing? before with
    | none =>
      rw [standing?_eq_none_iff.mp hfirst] at he
      exact absurd he List.not_mem_nil
    | some first =>
      have hstands : first.isFirm = true := (isFirm_of_standing? hfirst).mpr ⟨e, he, hearlier⟩
      refine ⟨first.line, ?_⟩
      simp [conflictWith?, hfirm, hstands, isDefinition_of_isFirm hfirm,
        isDefinition_of_isFirm hstands]

/-- A definition conflicts with a declaration if and only if there is an earlier definition, and
either it or an earlier one, but not both, stands outside conditions. -/
theorem isReportedAs_conflict_iff {name : String}
    (hsplit : headersOf catalog text name = before ++ h :: after) :
    h.IsReportedAs .functionConflict (checkDeclarations catalog config text) ↔
      h.isDefinition = true ∧ (∃ e ∈ before, e.isDefinition = true) ∧
        (h.isFirm = true ∨ ∃ e ∈ before, e.isFirm = true) ∧
        ¬(h.isFirm = true ∧ ∃ e ∈ before, e.isFirm = true) := by
  obtain ⟨before', after', hall, -, hstanding⟩ := exists_split_sourceHeaders hsplit
  have hfound : ∀ line, h.finding (.functionConflict h.name line) ∈
      (checkDeclarations catalog config text).findings ↔
        (standing? before).bind h.conflictWith? = some (.functionConflict h.name line) := by
    intro line
    rw [mem_findings_iff_conflict? hall rfl, conflict?, hstanding]
  unfold IsReportedAs
  simp only [hfound]
  cases hfirst : standing? before with
  | none =>
    simp [standing?_eq_none_iff.mp hfirst]
  | some first =>
    rw [← isFirm_of_standing? hfirst, ← isDefinition_of_standing? hfirst]
    cases hdefinition : h.isDefinition <;> cases hearlier : first.isDefinition <;>
      cases hfirm : h.isFirm <;> cases hstands : first.isFirm <;>
        simp [conflictWith?, hdefinition, hearlier, hfirm, hstands]

end FunctionDecl

/-- The conflict policy. An error stands at a header if and only if it is a definition with an
earlier definition, and it or an earlier definition stands outside conditions. It says that the
function is declared already if both do, and that it conflicts with a declaration otherwise. In the
table stands the first definition outside conditions, or else the first definition, or else the
first prototype, in the order of the first headers. A header stands under a condition if the
directives above it leave a group open. -/
theorem function_conflict_policy (catalog : Catalog) (config : Config) (text : List Char)
    (name : String) :
    (∀ h ∈ headersOf catalog text name, h.conditional = true ↔
      0 < (Conditionals.follow {} (directivesOf false ((codeRows text).take h.line))).depth) ∧
    (∀ before h after, headersOf catalog text name = before ++ h :: after →
      (h.IsReported (checkDeclarations catalog config text) ↔
        h.isDefinition = true ∧ (∃ e ∈ before, e.isDefinition = true) ∧
          (h.isFirm = true ∨ ∃ e ∈ before, e.isFirm = true)) ∧
      (h.IsReported (checkDeclarations catalog config text) →
        (h.IsReportedAs .functionRedeclared (checkDeclarations catalog config text) ↔
          h.isFirm = true ∧ ∃ e ∈ before, e.isFirm = true) ∧
        (h.IsReportedAs .functionConflict (checkDeclarations catalog config text) ↔
          ¬(h.isFirm = true ∧ ∃ e ∈ before, e.isFirm = true)))) ∧
    (checkDeclarations catalog config text).functions.find? (·.name == name) =
      standing? (headersOf catalog text name) ∧
    (checkDeclarations catalog config text).functions.map (·.name) =
      ((sourceHeaders catalog text).map (·.name)).eraseDups := by
  refine ⟨fun h hh => conditional_iff (List.mem_filter.mp hh).1, fun before h after hsplit => ?_,
    ?_, ?_⟩
  · have hredeclared :=
      @FunctionDecl.isReportedAs_redeclared_iff catalog config text h before after name hsplit
    have hconflict :=
      @FunctionDecl.isReportedAs_conflict_iff catalog config text h before after name hsplit
    have hreported : h.IsReported (checkDeclarations catalog config text) ↔
        h.isDefinition = true ∧ (∃ e ∈ before, e.isDefinition = true) ∧
          (h.isFirm = true ∨ ∃ e ∈ before, e.isFirm = true) := by
      rw [FunctionDecl.IsReported, hredeclared, hconflict]
      constructor
      · rintro (⟨hfirm, e, he, hearlier⟩ | ⟨hdefinition, hearlier, heither, _⟩)
        · exact ⟨FunctionDecl.isDefinition_of_isFirm hfirm,
            ⟨e, he, FunctionDecl.isDefinition_of_isFirm hearlier⟩, Or.inl hfirm⟩
        · exact ⟨hdefinition, hearlier, heither⟩
      · rintro ⟨hdefinition, hearlier, heither⟩
        by_cases hboth : h.isFirm = true ∧ ∃ e ∈ before, e.isFirm = true
        · exact Or.inl hboth
        · exact Or.inr ⟨hdefinition, hearlier, heither, hboth⟩
    refine ⟨hreported, fun hh => ⟨hredeclared, ?_⟩⟩
    obtain ⟨hdefinition, hearlier, heither⟩ := hreported.mp hh
    rw [hconflict]
    exact ⟨fun hall => hall.2.2.2, fun hnot => ⟨hdefinition, hearlier, heither, hnot⟩⟩
  · rw [functions_checkDeclarations, find?_standingFunctions]
    rfl
  · rw [functions_checkDeclarations, map_name_standingFunctions]

/-- A function with a prototype, a definition under a condition and two outside. -/
def definedThrice : List Char :=
  "void f();\n#if A\nvoid f()\x7b\x7d\n#endif\nvoid f()\x7b\x7d\nvoid f()\x7b\x7d".toList

/-- The header of `f` in a line. -/
def headerOfF (line : Nat) (conditional isPrototype : Bool) : FunctionDecl :=
  ⟨"f", line, 5, conditional, isPrototype⟩

/-- The first definition outside conditions conflicts with the one under the condition and takes its
place, and the function is declared already at the second. -/
theorem function_conflict_definedThrice :
    headersOf typeCatalog definedThrice "f" = [headerOfF 0 false true, headerOfF 2 true false,
      headerOfF 4 false false, headerOfF 5 false false] ∧
    ¬(headerOfF 2 true false).IsReported (checkDeclarations typeCatalog {} definedThrice) ∧
    (headerOfF 4 false false).IsReportedAs .functionConflict
      (checkDeclarations typeCatalog {} definedThrice) ∧
    (headerOfF 5 false false).IsReportedAs .functionRedeclared
      (checkDeclarations typeCatalog {} definedThrice) ∧
    (checkDeclarations typeCatalog {} definedThrice).functions.find? (·.name == "f") =
      some (headerOfF 4 false false) := by
  have hheaders : headersOf typeCatalog definedThrice "f" = [headerOfF 0 false true,
      headerOfF 2 true false, headerOfF 4 false false, headerOfF 5 false false] := by
    cbv
  obtain ⟨_, hpolicy, hstands, _⟩ := function_conflict_policy typeCatalog {} definedThrice "f"
  obtain ⟨hsecond, _⟩ := hpolicy [headerOfF 0 false true] (headerOfF 2 true false) _ hheaders
  obtain ⟨hthird, hkind⟩ := hpolicy [headerOfF 0 false true, headerOfF 2 true false]
    (headerOfF 4 false false) _ hheaders
  obtain ⟨hfourth, hkind'⟩ := hpolicy [headerOfF 0 false true, headerOfF 2 true false,
    headerOfF 4 false false] (headerOfF 5 false false) _ hheaders
  refine ⟨hheaders, fun hreported => ?_, ?_, ?_, ?_⟩
  · exact absurd (hsecond.mp hreported) (by decide)
  · exact (hkind (hthird.mpr (by decide))).2.mpr (by decide)
  · exact (hkind' (hfourth.mpr (by decide))).1.mpr (by decide)
  · rw [hstands, hheaders]
    rfl

end BrickLint
