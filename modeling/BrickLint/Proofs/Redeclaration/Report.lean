import BrickLint.Proofs.BraceScope.Pairs
import BrickLint.Proofs.Conditional.Lines
import BrickLint.Proofs.FunctionTable
import BrickLint.Proofs.Redeclaration.Memory
import BrickLint.Proofs.ResultForm

/-!
# Redeclarations that are reported

A declaration is compared with the first one of its name in its scope. No two declarations of a
source stand at the same place, so the report says of every declaration whether it conflicts with
the first one. A conflict with another one is reported as well, unless that one stands in a sibling
branch of the first.
-/

namespace BrickLint

open Text

/-- The columns of tokens increase, from the first character that belongs to none of those before
on. -/
theorem columns_tokensFrom (skip column : Nat) (cs : List Char) :
    (∀ token ∈ tokensFrom skip column cs, column + skip ≤ token.column) ∧
      (tokensFrom skip column cs).Pairwise (·.column < ·.column) := by
  induction cs generalizing skip column with
  | nil => simp [tokensFrom]
  | cons c cs ih =>
    cases skip with
    | succ remaining =>
      obtain ⟨hfrom, hpairs⟩ := ih remaining (column + 1)
      refine ⟨fun token htoken => ?_, hpairs⟩
      have hcolumn := hfrom token htoken
      omega
    | zero =>
      unfold tokensFrom
      dsimp only
      split
      · obtain ⟨hfrom, hpairs⟩ := ih 0 (column + 1)
        refine ⟨fun token htoken => ?_, hpairs⟩
        have hcolumn := hfrom token htoken
        omega
      · obtain ⟨hfrom, hpairs⟩ := ih ((lexeme c cs).2.length - 1) (column + 1)
        have hlater : ∀ token ∈ tokensFrom ((lexeme c cs).2.length - 1) (column + 1) cs,
            column < token.column := by
          intro token htoken
          have hcolumn := hfrom token htoken
          omega
        refine ⟨fun token htoken => ?_, List.pairwise_cons.mpr ⟨hlater, hpairs⟩⟩
        rcases List.mem_cons.mp htoken with rfl | htoken
        · exact Nat.le_refl column
        · exact (hlater token htoken).le

/-- The columns of the tokens of a line increase. -/
theorem columns_tokenize (line : List Char) :
    (tokenize line).Pairwise (·.column < ·.column) :=
  (columns_tokensFrom 0 0 line).2

/-- A step reads a token that stands before the token of another step. -/
def WalkStep.Precedes (first second : WalkStep) : Prop :=
  first.code.number < second.code.number ∨
    first.code.number = second.code.number ∧ first.token.column < second.token.column

/-- The steps of numbered lines of code come in order of their places. -/
theorem precedes_traceLines (env : Environment) (w : Walk) {code : List CodeLine}
    (hcode : code.Pairwise (·.number < ·.number)) :
    (w.traceLines env code).Pairwise WalkStep.Precedes := by
  induction code generalizing w with
  | nil => exact List.Pairwise.nil
  | cons line code ih =>
    obtain ⟨hline, hcode⟩ := List.pairwise_cons.mp hcode
    obtain ⟨hsub, hsame⟩ := tokens_trace env line none w (tokenize line.text)
    refine List.pairwise_append.mpr ⟨?_, ih _ hcode, ?_⟩
    · have hcolumns := List.pairwise_map.mp ((columns_tokenize line.text).sublist hsub)
      refine hcolumns.imp_of_mem fun {first second} hfirst hsecond hlt => Or.inr ⟨?_, hlt⟩
      rw [hsame first hfirst, hsame second hsecond]
    · intro first hfirst second hsecond
      rw [WalkStep.Precedes, hsame first hfirst]
      exact Or.inl (hline second.code (code_of_mem_traceLines hsecond))

/-- The steps of a source come in order of their places. -/
theorem precedes_walkTrace (catalog : Catalog) (config : Config) (text : List Char) :
    (walkTrace catalog config text).Pairwise WalkStep.Precedes :=
  precedes_traceLines _ {} (numbers_layout _)

namespace Declaration

/-- A declaration stands before another one. -/
def Precedes (d e : Declaration) : Prop :=
  d.declared.line < e.declared.line ∨
    d.declared.line = e.declared.line ∧ d.declared.column < e.declared.column

/-- A declaration stands in a line of code, under the branches around it. -/
def IsIn (d : Declaration) (code : CodeLine) : Prop :=
  d.declared.line = code.number ∧ d.declared.path = code.path

variable {d e first : Declaration} {declarations : List Declaration}

/-- A declaration that stands before another one is in no later line. -/
theorem Precedes.line_le (h : d.Precedes e) : d.declared.line ≤ e.declared.line := by
  rcases h with hlt | ⟨heq, _⟩
  · exact hlt.le
  · exact heq.le

/-- The first declaration of a kind is in no later line than any other one. -/
theorem line_le_of_find? {p : Declaration → Bool} (hdeclarations : declarations.Pairwise Precedes)
    (hfirst : declarations.find? p = some first) (he : e ∈ declarations) (hp : p e = true) :
    first.declared.line ≤ e.declared.line := by
  obtain ⟨_, earlier, later, rfl, hearlier⟩ := List.find?_eq_some_iff_append.mp hfirst
  rcases List.mem_append.mp he with he | he
  · have hnot := hearlier e he
    simp [hp] at hnot
  rcases List.mem_cons.mp he with rfl | he
  · exact le_rfl
  · exact (List.rel_of_pairwise_cons (List.pairwise_append.mp hdeclarations).2.1 he).line_le

end Declaration

/-- A declaration stands at the place of the step that makes it. -/
theorem WalkStep.place_of_declaration? {env : Environment} {step : WalkStep} {d : Declaration}
    (h : step.declaration? env = some d) :
    d.IsIn step.code ∧ d.declared.column = step.token.column := by
  obtain ⟨od, _, hplain⟩ := Option.bind_eq_some_iff.mp h
  split at hplain
  · cases hplain
  · obtain rfl := Option.some.inj hplain
    exact ⟨⟨rfl, rfl⟩, rfl⟩

/-- The declarations of a source come in order of their places. -/
theorem precedes_declarationLog (catalog : Catalog) (config : Config) (text : List Char) :
    (declarationLog catalog config text).Pairwise Declaration.Precedes := by
  refine (precedes_walkTrace catalog config text).filterMap _ fun first second hlt d hd e he => ?_
  obtain ⟨⟨hdline, _⟩, hdcolumn⟩ := WalkStep.place_of_declaration? hd
  obtain ⟨⟨heline, _⟩, hecolumn⟩ := WalkStep.place_of_declaration? he
  rw [Declaration.Precedes, hdline, heline, hdcolumn, hecolumn]
  rcases hlt with hlt | ⟨hline, hlt⟩
  · exact Or.inl (by exact_mod_cast hlt)
  · exact Or.inr ⟨by exact_mod_cast hline, by exact_mod_cast hlt⟩

/-- The declarations of a source stand in its lines of code. -/
theorem exists_code_of_mem_declarationLog {catalog : Catalog} {config : Config} {text : List Char}
    {d : Declaration}
    (h : d ∈ declarationLog catalog config text) :
    ∃ code ∈ (layout (codeRows text)).code, d.IsIn code := by
  obtain ⟨step, hstep, hd⟩ := List.mem_filterMap.mp h
  exact ⟨step.code, code_of_mem_traceLines hstep, (WalkStep.place_of_declaration? hd).1⟩

/-- Of three declarations in order, the outer two are in sibling branches only if the middle one is
in a sibling branch of one of them. -/
theorem Declaration.isSibling_between {catalog : Catalog} {config : Config} {text : List Char}
    {d e f : Declaration}
    (hd : d ∈ declarationLog catalog config text) (he : e ∈ declarationLog catalog config text)
    (hf : f ∈ declarationLog catalog config text) (hde : d.declared.line ≤ e.declared.line)
    (hef : e.declared.line ≤ f.declared.line) (h : d.isSibling f = true) :
    d.isSibling e = true ∨ e.isSibling f = true := by
  obtain ⟨dcode, hdcode, hdline, hdpath⟩ := exists_code_of_mem_declarationLog hd
  obtain ⟨ecode, hecode, heline, hepath⟩ := exists_code_of_mem_declarationLog he
  obtain ⟨fcode, hfcode, hfline, hfpath⟩ := exists_code_of_mem_declarationLog hf
  rw [hdline, heline] at hde
  rw [heline, hfline] at hef
  rw [isSibling, hdpath, hfpath] at h
  rw [isSibling, isSibling, hdpath, hepath, hfpath]
  exact inSiblingBranches_between hdcode hecode hfcode (by exact_mod_cast hde)
    (by exact_mod_cast hef) h

/-- An error at a declaration says that its name has been declared before. -/
def Declaration.IsReported (d : Declaration) (report : DeclarationReport) : Prop :=
  ∃ line : Int, ⟨.variableRedeclared d.declared.name line, d.declared.line, d.declared.column,
    d.declared.name.length⟩ ∈ report.findings

/-- All redeclarations that a report shows come from the walk. -/
theorem mem_redeclarations_of_mem_findings {catalog : Catalog} {config : Config} {text : List Char}
    {f : Finding}
    (hf : f ∈ (checkDeclarations catalog config text).findings)
    (hcause : f.cause.isRedeclaration = true) :
    f ∈ (checkDeclarations catalog config text).walk.redeclarations := by
  have hwalk : f ∈ (checkDeclarations catalog config text).walk.findings := by
    cases origin_of_mem_checkDeclarations hf with
    | function hfunction =>
      have habout := isAboutHeader_of_mem_collectFunctions hfunction
      cases hf : f.cause <;> simp [hf, Cause.isAboutHeader, Cause.isRedeclaration] at habout hcause
    | walk hwalk => exact hwalk
    | call call best _ _ heq =>
      subst heq
      cases hcause
    | initializer hinitializer =>
      rw [cause_of_mem_initializerFindings hinitializer] at hcause
      cases hcause
    | unused v _ heq =>
      subst heq
      cases hcause
  exact List.mem_filter.mpr ⟨hwalk, hcause⟩

/-- A list without repetitions, in the sense of an order, is split in one way before an element. -/
theorem eq_of_split {α : Type} {R : α → α → Prop} {before after before' after' : List α} {a b : α}
    (hl : (before ++ a :: after).Pairwise R) (hab : ¬R a b) (hba : ¬R b a)
    (h : before ++ a :: after = before' ++ b :: after') : before = before' ∧ a = b := by
  rcases List.append_eq_append_iff.mp h with ⟨mid, rfl, hmid⟩ | ⟨mid, rfl, hmid⟩
  · cases mid with
    | nil => exact ⟨(List.append_nil _).symm, (List.cons.inj hmid).1⟩
    | cons c mid =>
      obtain ⟨rfl, rfl⟩ := List.cons.inj hmid
      have hlater := List.rel_of_pairwise_cons (List.pairwise_append.mp hl).2.1
        (List.mem_append_right mid List.mem_cons_self)
      exact absurd hlater hab
  · cases mid with
    | nil => exact ⟨List.append_nil _, (List.cons.inj hmid).1.symm⟩
    | cons c mid =>
      obtain ⟨rfl, rfl⟩ := List.cons.inj hmid
      have hearlier := (List.pairwise_append.mp hl).2.2 b
        (List.mem_append_right _ List.mem_cons_self) a List.mem_cons_self
      exact absurd hearlier hba

/-- An error is reported at a declaration if and only if it conflicts with those before it. -/
theorem Declaration.isReported_iff {catalog : Catalog} {config : Config} {text : List Char}
    {d : Declaration}
    {before after : List Declaration}
    (hlog : declarationLog catalog config text = before ++ d :: after) :
    d.IsReported (checkDeclarations catalog config text) ↔ (d.conflict? before).isSome = true := by
  have hconflicts := redeclarations_eq_conflicts catalog config text
  constructor
  · rintro ⟨line, hline⟩
    have hmem := mem_redeclarations_of_mem_findings hline rfl
    rw [hconflicts] at hmem
    obtain ⟨before', e, after', hsplit, hconflict⟩ := mem_conflicts.mp hmem
    obtain ⟨first, _, hsome⟩ := Option.bind_eq_some_iff.mp hconflict
    -- The conflict is one of a declaration at the same place, so of this one.
    have hplace : e.declared.line = d.declared.line ∧ e.declared.column = d.declared.column := by
      split at hsome
      · cases hsome
      · have hsame := Option.some.inj hsome
        exact ⟨congrArg Finding.line hsame, congrArg Finding.column hsame⟩
    obtain ⟨rfl, rfl⟩ := eq_of_split (hlog ▸ precedes_declarationLog catalog config text)
      (by simp [Precedes, hplace]) (by simp [Precedes, hplace]) (hlog.symm.trans hsplit)
    rw [List.nil_append] at hconflict
    rw [hconflict]
    rfl
  · intro hsome
    obtain ⟨f, hf⟩ := Option.isSome_iff_exists.mp hsome
    have hmem : f ∈ (checkDeclarations catalog config text).walk.redeclarations := by
      rw [hconflicts]
      exact mem_conflicts.mpr ⟨before, d, after, hlog, hf⟩
    have hfindings : f ∈ (checkDeclarations catalog config text).findings := by
      have hwalk := (List.mem_filter.mp hmem).1
      simp only [checkDeclarations, List.mem_append] at hwalk ⊢
      exact Or.inl (Or.inl (Or.inl (Or.inr hwalk)))
    obtain ⟨first, _, hsome⟩ := Option.bind_eq_some_iff.mp hf
    split at hsome
    · cases hsome
    · obtain rfl := Option.some.inj hsome
      exact ⟨first.declared.line, hfindings⟩

/-- A declaration conflicts with those before it if and only if the first of its name and scope is
in no sibling branch. -/
theorem Declaration.isSome_conflict?_iff {before : List Declaration} {d : Declaration} :
    (d.conflict? before).isSome = true ↔
      ∃ first, before.find? d.isRival = some first ∧ first.isSibling d = false := by
  unfold conflict?
  cases before.find? d.isRival with
  | none => simp
  | some first => cases hsibling : first.isSibling d <;> simp [hsibling]

/-- An error is reported at a declaration if and only if the first declaration of its name in its
scope is in no sibling branch. So an error always means that some earlier declaration is in no
sibling branch, and a declaration that is in no sibling branch of an earlier one is reported, unless
the first declaration is in a sibling branch of that one. -/
theorem reported_iff_first_conflicts (catalog : Catalog) (config : Config) (text : List Char)
    {before after : List Declaration} {d : Declaration}
    (hlog : declarationLog catalog config text = before ++ d :: after) :
    (d.IsReported (checkDeclarations catalog config text) ↔
        ∃ first, before.find? d.isRival = some first ∧ first.isSibling d = false) ∧
      (d.IsReported (checkDeclarations catalog config text) →
        ∃ e ∈ before, d.isRival e = true ∧ e.isSibling d = false) ∧
      ∀ e ∈ before, d.isRival e = true → e.isSibling d = false →
        (∀ first, before.find? d.isRival = some first → first.isSibling e = false) →
          d.IsReported (checkDeclarations catalog config text) := by
  have hiff : d.IsReported (checkDeclarations catalog config text) ↔
      ∃ first, before.find? d.isRival = some first ∧ first.isSibling d = false :=
    (Declaration.isReported_iff hlog).trans Declaration.isSome_conflict?_iff
  refine ⟨hiff, fun hreported => ?_, fun e he hrival hsibling hapart => ?_⟩
  · obtain ⟨first, hfirst, hsibling⟩ := hiff.mp hreported
    exact ⟨first, List.mem_of_find?_eq_some hfirst, List.find?_some hfirst, hsibling⟩
  · obtain ⟨first, hfirst⟩ := Option.isSome_iff_exists.mp (List.find?_isSome.mpr ⟨e, he, hrival⟩)
    refine hiff.mpr ⟨first, hfirst, Bool.eq_false_iff.mpr fun hfar => ?_⟩
    have hmem : ∀ f ∈ before, f ∈ declarationLog catalog config text := fun f hf => by
      rw [hlog]
      exact List.mem_append_left _ hf
    have hd : d ∈ declarationLog catalog config text := by
      rw [hlog]
      exact List.mem_append_right _ List.mem_cons_self
    obtain ⟨hordered, _, hlast⟩ :=
      List.pairwise_append.mp (hlog ▸ precedes_declarationLog catalog config text)
    have hfe := Declaration.line_le_of_find? hordered hfirst he hrival
    have hed := Declaration.Precedes.line_le (hlast e he d List.mem_cons_self)
    rcases Declaration.isSibling_between (hmem first (List.mem_of_find?_eq_some hfirst))
      (hmem e he) hd hfe hed hfar with hnear | hnear
    · exact Bool.false_ne_true ((hapart first hfirst).symm.trans hnear)
    · exact Bool.false_ne_true (hsibling.symm.trans hnear)

/-- The declaration of `x` in a line outside all functions. -/
def declarationOfX (line : Nat) (path : List Branch) : Declaration :=
  ⟨0, { name := "x", line := line, column := 4, path := path }⟩

/-- A variable that is declared in both branches of a condition and once more below. -/
def declaredBelow : List Char :=
  "#if A\nint x;\n#else\nint x;\n#endif\nint x;".toList

/-- A declaration below a condition is reported when the name is declared in both branches. -/
theorem isReported_declaredBelow : ∃ before d,
    declarationLog typeCatalog {} declaredBelow = before ++ [d] ∧ before.length = 2 ∧
      d.IsReported (checkDeclarations typeCatalog {} declaredBelow) := by
  have hlog : declarationLog typeCatalog {} declaredBelow =
      [declarationOfX 1 [⟨0, 0⟩], declarationOfX 3 [⟨0, 1⟩]] ++ [declarationOfX 5 []] := by
    cbv
  obtain ⟨_, _, hreported⟩ := reported_iff_first_conflicts typeCatalog {} declaredBelow hlog
  refine ⟨_, _, hlog, rfl, hreported (declarationOfX 1 [⟨0, 0⟩]) List.mem_cons_self rfl rfl ?_⟩
  intro first hfirst
  obtain rfl : declarationOfX 1 [⟨0, 0⟩] = first := Option.some.inj hfirst
  rfl

/-- A variable that is declared in both branches of a condition, and twice in the second. -/
def declaredTwiceInBranch : List Char :=
  "#if A\nint x;\n#else\nint x;\nint x;\n#endif".toList

/-- Not every declaration is reported that is in no sibling branch of an earlier one: the first
declaration alone is remembered, and a third one in the branch of the second is not compared with
the second. -/
theorem not_isReported_declaredTwiceInBranch :
    ¬∀ (catalog : Catalog) (config : Config) (source : List Char) (before after : List Declaration)
      (d : Declaration), declarationLog catalog config (scrub source) = before ++ d :: after →
        ∀ e ∈ before, d.isRival e = true → e.isSibling d = false →
          d.IsReported (checkDeclarations catalog config (scrub source)) := by
  intro h
  have hlog : declarationLog typeCatalog {} (scrub declaredTwiceInBranch) =
      [declarationOfX 1 [⟨0, 0⟩], declarationOfX 3 [⟨0, 1⟩]] ++ [declarationOfX 4 [⟨0, 1⟩]] := by
    cbv
  have hfindings :
      (checkDeclarations typeCatalog {} (scrub declaredTwiceInBranch)).findings = [] := by
    cbv
  obtain ⟨line, hline⟩ := h typeCatalog {} declaredTwiceInBranch _ [] _ hlog
    (declarationOfX 3 [⟨0, 1⟩]) (by simp) rfl rfl
  rw [hfindings] at hline
  exact List.not_mem_nil hline

end BrickLint
