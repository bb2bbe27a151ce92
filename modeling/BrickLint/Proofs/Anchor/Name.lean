import BrickLint.Declaration.Report
import BrickLint.Proofs.Anchor.Place
import BrickLint.Proofs.Header

/-!
# Findings about a name

A name that the passes over the declarations object to was read from a line of code, as a token or
as the name of a header, and it is carried along with its place: in the function table, in the
scopes, and in the table of calls. So it still stands in the line when it is reported.
-/

namespace BrickLint

open Text

/-- The name that a cause is about, when it is about one. -/
def Cause.name? : Cause → Option String
  | .functionRedeclared name _ | .functionConflict name _ | .functionShadowsBuiltin name
  | .variableRedeclared name _ | .variableShadowsFunction name | .variableShadowsConstant name
  | .undefinedVariable name | .unknownCall name _ | .unusedVariable name => some name
  | _ => none

/-- The finding is about a name, which stands where the finding says. -/
def Finding.IsNamed (lines : List (List Char)) (f : Finding) : Prop :=
  ∃ cause name, ∃ line column : Nat, f = ⟨cause, line, column, name.length⟩ ∧
    cause.name? = some name ∧ NameAt lines name line column

/-- The lines of code are lines of the source. -/
theorem text_of_mem_layoutFrom {lines rest : List (List Char)} {conds : Conditionals}
    {continued : Bool} {number : Nat} (hrest : lines.drop number = rest) {code : CodeLine}
    (h : code ∈ (layoutFrom conds continued number rest).code) :
    lines[code.number]? = some code.text := by
  induction rest generalizing conds continued number with
  | nil => simp [layoutFrom] at h
  | cons line rest ih =>
    have hnext := drop_add_one_of_drop_eq hrest
    unfold layoutFrom at h
    dsimp only at h
    split at h
    · exact ih hnext h
    split at h
    · split at h
      · exact ih hnext h
      · split at h <;> exact ih hnext h
    · rcases List.mem_cons.mp h with rfl | hlater
      · exact getElem?_of_drop_eq hrest
      · exact ih hnext hlater

/-- The lines of code of a layout are lines of the source. -/
theorem text_of_mem_layout {lines : List (List Char)} {code : CodeLine}
    (h : code ∈ (layout lines).code) : lines[code.number]? = some code.text :=
  text_of_mem_layoutFrom rfl h

/-- The findings after one was added. -/
theorem FunctionTable.mem_findings_report {table : FunctionTable} {f g : Finding} :
    f ∈ (table.report g).findings ↔ f ∈ table.findings ∨ f = g := by
  simp [report]

/-- Adding a second definition objects to its name or to nothing. -/
theorem FunctionTable.mem_findings_addDefinition {table : FunctionTable}
    {existing decl : FunctionDecl} {f : Finding}
    (h : f ∈ (table.addDefinition existing decl).findings) :
    f ∈ table.findings ∨
      ∃ cause : Cause, f = decl.finding cause ∧ cause.name? = some decl.name := by
  have hreport : f ∈ (if !existing.conditional && !decl.conditional then
      table.report (decl.finding (.functionRedeclared decl.name existing.line))
      else if !existing.conditional || !decl.conditional then
      table.report (decl.finding (.functionConflict decl.name existing.line))
      else table).findings := by
    unfold addDefinition at h
    dsimp only at h
    split at h <;> exact h
  split at hreport
  · exact (mem_findings_report.mp hreport).imp_right fun hnew => ⟨_, hnew, rfl⟩
  split at hreport
  · exact (mem_findings_report.mp hreport).imp_right fun hnew => ⟨_, hnew, rfl⟩
  · exact Or.inl hreport

/-- Adding a header objects to its name or to nothing. -/
theorem FunctionTable.mem_findings_add {catalog : Catalog} {config : Config}
    {table : FunctionTable} {decl : FunctionDecl} {f : Finding}
    (h : f ∈ (table.add catalog config decl).findings) :
    f ∈ table.findings ∨
      ∃ cause : Cause, f = decl.finding cause ∧ cause.name? = some decl.name := by
  unfold FunctionTable.add at h
  split at h
  · unfold addFirst at h
    dsimp only at h
    split at h
    · exact (mem_findings_report.mp h).imp_right fun hnew => ⟨_, hnew, rfl⟩
    · exact Or.inl h
  · split at h
    · exact Or.inl h
    split at h
    · exact Or.inl h
    · exact mem_findings_addDefinition h

/-- The name of a function that a line of code declares stands in the line. -/
theorem nameAt_of_functionOfLine? {lines : List (List Char)} {types : List String}
    {code : CodeLine} (hcode : lines[code.number]? = some code.text) {decl : FunctionDecl}
    (h : functionOfLine? types code = some decl) :
    NameAt lines decl.name decl.line decl.column := by
  obtain ⟨header, hheader, rfl⟩ := Option.map_eq_some_iff.mp h
  obtain ⟨hname, hprefix⟩ := prefix_of_matchHeader? hheader
  exact ⟨hname, code.text, hcode, hprefix⟩

/-- Findings about functions are about names. -/
theorem isNamed_of_mem_collectFunctions {lines : List (List Char)} {catalog : Catalog}
    {config : Config} {userTypes : List String} {code : List CodeLine}
    (hcode : ∀ line ∈ code, lines[line.number]? = some line.text) {f : Finding}
    (h : f ∈ (collectFunctions catalog config userTypes code).findings) : f.IsNamed lines := by
  unfold collectFunctions at h
  generalize hdecls : code.filterMap _ = decls at h
  have hnames : ∀ decl ∈ decls, NameAt lines decl.name decl.line decl.column := by
    intro decl hdecl
    obtain ⟨line, hline, hdecl⟩ := List.mem_filterMap.mp (hdecls ▸ hdecl)
    exact nameAt_of_functionOfLine? (hcode line hline) hdecl
  clear hdecls
  -- Every header that is added leaves findings that were there or are about its own name.
  suffices hrun : ∀ table : FunctionTable, (∀ g ∈ table.findings, g.IsNamed lines) →
      ∀ g ∈ (decls.foldl (FunctionTable.add catalog config) table).findings, g.IsNamed lines by
    exact hrun {} (by simp) f h
  clear h
  induction decls with
  | nil => exact fun _ htable => htable
  | cons decl decls ih =>
    intro table htable
    refine ih (fun other hother => hnames other (List.mem_cons_of_mem _ hother)) _ ?_
    intro g hg
    rcases FunctionTable.mem_findings_add hg with hbefore | ⟨cause, rfl, hcause⟩
    · exact htable g hbefore
    · exact ⟨cause, decl.name, decl.line, decl.column, rfl, hcause,
        hnames decl List.mem_cons_self⟩

end BrickLint
