import BrickLint.Declaration.FunctionTable

/-!
# Names in a function table

A table of functions holds the names of the headers that were added to it: a later header never
removes a name, even where it takes the place of an earlier one. What is objected to a header is
about functions only.
-/

namespace BrickLint

namespace FunctionTable

/-- A function in the place of another one has the same name. -/
@[simp] theorem contains_replace (table : FunctionTable) (decl : FunctionDecl) (name : String) :
    (table.replace decl).contains name = table.contains name := by
  simp only [contains, replace, List.any_map]
  congr 1
  funext old
  simp only [Function.comp_apply]
  split
  case isTrue hname => rw [hname]
  case isFalse => rfl

/-- The first header of a function adds its name. -/
theorem contains_addFirst (catalog : Catalog) (config : Config) (table : FunctionTable)
    (decl : FunctionDecl) (name : String) :
    (table.addFirst catalog config decl).contains name =
      (table.contains name || decl.name == name) := by
  unfold addFirst
  dsimp only
  split <;> simp [contains, report]

/-- A second definition of a function changes no names. -/
theorem contains_addDefinition (table : FunctionTable) (existing decl : FunctionDecl)
    (name : String) :
    (table.addDefinition existing decl).contains name = table.contains name := by
  unfold addDefinition
  dsimp only
  split
  · rw [contains_replace]
    split
    · rfl
    split <;> rfl
  · split
    · rfl
    split <;> rfl

/-- A header adds its name. -/
theorem contains_add (catalog : Catalog) (config : Config) (table : FunctionTable)
    (decl : FunctionDecl) (name : String) :
    (table.add catalog config decl).contains name = (table.contains name || decl.name == name) := by
  unfold add
  split
  · exact contains_addFirst catalog config table decl name
  case h_2 existing hexisting =>
    -- The table has the name already, so it does not matter what becomes of the header.
    have hknown : (decl.name == name) = true → table.contains name = true := by
      intro hname
      have hfound := List.find?_some hexisting
      rw [← eq_of_beq hname, contains, List.any_eq_true]
      exact ⟨existing, List.mem_of_find?_eq_some hexisting, hfound⟩
    have hsame : (table.contains name || decl.name == name) = table.contains name := by
      cases hdecl : decl.name == name with
      | false => rw [Bool.or_false]
      | true => rw [hknown hdecl, Bool.true_or]
    rw [hsame]
    split
    · exact contains_replace table decl name
    split
    · rfl
    · exact contains_addDefinition table existing decl name

/-- The headers of a list add their names. -/
theorem contains_foldl_add (catalog : Catalog) (config : Config) (table : FunctionTable)
    (decls : List FunctionDecl) (name : String) :
    (decls.foldl (add catalog config) table).contains name =
      (table.contains name || decls.any (·.name == name)) := by
  induction decls generalizing table with
  | nil => simp
  | cons decl decls ih =>
    rw [List.foldl_cons, ih, contains_add, List.any_cons, Bool.or_assoc]

end FunctionTable

/-- The functions of a source are those that its lines of code declare. -/
theorem contains_collectFunctions (catalog : Catalog) (config : Config) (userTypes : List String)
    (code : List CodeLine) (name : String) :
    (collectFunctions catalog config userTypes code).contains name = true ↔
      ∃ line ∈ code, ∃ header,
        matchHeader? (variableTypes ++ functionTypes ++ userTypes) line.text = some header ∧
          header.name = name := by
  have hempty : ({} : FunctionTable).contains name = false := rfl
  rw [collectFunctions, FunctionTable.contains_foldl_add, hempty, Bool.false_or, List.any_eq_true]
  constructor
  · rintro ⟨decl, hdecl, hname⟩
    obtain ⟨line, hline, hdecl⟩ := List.mem_filterMap.mp hdecl
    obtain ⟨header, hheader, rfl⟩ := Option.map_eq_some_iff.mp hdecl
    exact ⟨line, hline, header, hheader, eq_of_beq hname⟩
  · rintro ⟨line, hline, header, hheader, rfl⟩
    refine ⟨⟨header.name, line.number, header.column, !line.path.isEmpty,
      header.isPrototype line.text⟩, List.mem_filterMap.mpr ⟨line, hline, ?_⟩, by simp⟩
    rw [functionOfLine?, hheader, Option.map_some]

/-- Whether a cause is about the header of a function. -/
def Cause.isAboutHeader : Cause → Bool
  | .functionRedeclared _ _ | .functionConflict _ _ | .functionShadowsBuiltin _ => true
  | _ => false

/-- A header is objected to for reasons about headers. -/
theorem FunctionTable.isAboutHeader_add {catalog : Catalog} {config : Config}
    {table : FunctionTable} (htable : ∀ f ∈ table.findings, f.cause.isAboutHeader = true)
    (decl : FunctionDecl) :
    ∀ f ∈ (table.add catalog config decl).findings, f.cause.isAboutHeader = true := by
  have hreport : ∀ cause : Cause, cause.isAboutHeader = true →
      ∀ f ∈ table.findings ++ [decl.finding cause], f.cause.isAboutHeader = true := by
    intro cause hcause f hf
    rcases List.mem_append.mp hf with hbefore | hnew
    · exact htable f hbefore
    · rw [List.mem_singleton.mp hnew]
      exact hcause
  unfold add
  split
  · unfold addFirst
    dsimp only
    split
    · exact hreport _ rfl
    · exact htable
  · split
    · exact htable
    split
    · exact htable
    · unfold addDefinition
      dsimp only
      rw [apply_ite FunctionTable.findings, show ∀ t : FunctionTable, (t.replace decl).findings =
        t.findings from fun _ => rfl, ite_self]
      split
      · exact hreport _ rfl
      split
      · exact hreport _ rfl
      · exact htable

/-- What is objected to the functions of a source is about their headers. -/
theorem isAboutHeader_of_mem_collectFunctions {catalog : Catalog} {config : Config}
    {userTypes : List String} {code : List CodeLine} {f : Finding}
    (h : f ∈ (collectFunctions catalog config userTypes code).findings) :
    f.cause.isAboutHeader = true := by
  unfold collectFunctions at h
  generalize code.filterMap _ = decls at h
  suffices hrun : ∀ table : FunctionTable,
      (∀ g ∈ table.findings, g.cause.isAboutHeader = true) →
        ∀ g ∈ (decls.foldl (FunctionTable.add catalog config) table).findings,
          g.cause.isAboutHeader = true by
    exact hrun {} (by simp) f h
  clear h
  induction decls with
  | nil => exact fun _ htable => htable
  | cons decl decls ih =>
    exact fun table htable => ih _ (FunctionTable.isAboutHeader_add htable decl)

end BrickLint
