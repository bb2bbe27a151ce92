import BrickLint.Analysis
import BrickLint.Proofs.LineMap
import BrickLint.Proofs.VisualLine
import Mathlib

/-!
# Lines of grammar hints

A hint stands on a line of the source, which is found from a row of the expanded text. The map from
rows to lines has an entry for each visual line of that text, and it is asked for a row. As long as
the rows are plain, rows and visual lines are the same and the hint stands where the line markers
say. A form feed or another unusual line break within a row shifts every later hint.
-/

namespace BrickLint.Grammar

open Text

/-- The problems of a parse tree that hints are given about. -/
def shownProblems (maxIssues : Int) (root : Node) : List Node :=
  if root.info.hasError then takeUpTo maxIssues (problems [root]) else []

/-- The line, counted from zero, that a row of an expanded text is traced back to: the line that the
visual line of the same number comes from. A row behind the last visual line stays as it is. -/
def tracedLine (text : List Char) (row : Nat) : Nat :=
  if row < (visualLines text).length then originLine (visualLines text) row - 1 else row

/-- The line map is asked for a row as if it were a visual line. -/
theorem sourceLine_lineMap (text : List Char) (row : Nat) :
    sourceLine (lineMap (visualLines text)) row = tracedLine text row := by
  rw [sourceLine, if_pos (Int.natCast_nonneg row), Int.toNat_natCast, lineMap, getElem?_lineMapFrom,
    tracedLine]
  by_cases hrow : row < (visualLines text).length
  · rw [List.getElem?_eq_getElem hrow, if_pos hrow]
    rfl
  · rw [List.getElem?_eq_none (by omega), if_neg hrow]
    rfl

/-- A shown row behind plain rows is traced back to the line that the line markers of the rows
give. -/
theorem tracedLine_of_plain {text : List Char} {row : Nat} (hshown : IsShownRow text row)
    (hplain : PlainUpTo text row) : tracedLine text row = originLine (rows text) row - 1 := by
  have hsame : originLine (visualLines text) row = originLine (rows text) row := by
    refine originLine_congr fun n hn => ?_
    obtain ⟨found, hfound, hbehind⟩ := hshown
    have hlength : row < (rows text).length := (List.getElem?_eq_some_iff.mp hfound).1
    have hn' : IsShownRow text n := by
      rcases Nat.lt_or_eq_of_le hn with hlt | rfl
      · exact ⟨_, List.getElem?_eq_getElem (by omega), .inr (by omega)⟩
      · exact ⟨found, hfound, hbehind⟩
    have hplain' : PlainUpTo text n := fun line hline =>
      hplain line (List.take_subset_take_left _ (by omega) hline)
    rw [hn'.getElem?_visualLines hplain']
    cases (rows text)[n]? with
    | none => rfl
    | some line => exact lineMarker?_dropReturn line
  rw [tracedLine, if_pos hshown.lt_length_visualLines, hsame]

/-- The hints about the problems come first, in the order of the problems. -/
theorem getElem?_treeFindings {maxIssues : Int} {parsed : Parsed} {root node : Node} {index : Nat}
    (h : (shownProblems maxIssues root)[index]? = some node) :
    (treeFindings maxIssues parsed root)[index]? =
      some (problemFinding (encodeUtf8 parsed.text) parsed.lines node) := by
  have hmap : ((shownProblems maxIssues root).map
      (problemFinding (encodeUtf8 parsed.text) parsed.lines))[index]? =
        some (problemFinding (encodeUtf8 parsed.text) parsed.lines node) := by
    rw [List.getElem?_map, h, Option.map_some]
  exact (List.getElem?_append_left (List.getElem?_eq_some_iff.mp hmap).1).trans hmap

/-- The line of a hint about a problem. -/
theorem line_problemFinding {source : List UInt8} {text : List Char} {node : Node} {row : Nat}
    (hrow : node.info.startRow = row) :
    (problemFinding source (lineMap (visualLines text)) node).toDiagnostic.position.line =
      tracedLine text row := by
  have hline : (problemFinding source (lineMap (visualLines text)) node).line =
      tracedLine text row := by
    rw [← sourceLine_lineMap, ← hrow]
    rfl
  rw [Finding.toDiagnostic, Diagnostic.at, hline, Int.toNat_natCast]

/-- The hint about a problem of an expanded text stands on the line that the row of the problem is
traced back to. When the row is shown and no row up to it holds an unusual line break, that is the
line that the line markers of the rows give. -/
theorem hintLine_of_problem {config : Config} {parse? : List Char → Option Node}
    {expand : List Char → Except Expand.ExpansionFault Expand.Expansion}
    {source : List Char} {expansion : Expand.Expansion} {root node : Node} {index row : Nat}
    (hlines : Expand.Expansion.ofText expansion.text = .ok expansion)
    (hparsed : prepare config expand source = ⟨expansion.text, expansion.lines⟩)
    (hroot : parse? expansion.text = some root)
    (hnode : (shownProblems config.grammarMaxIssues root)[index]? = some node)
    (hrow : node.info.startRow = row) :
    ∃ hint, (diagnosticsOf (findingsWith config parse? expand source))[index]? = some hint ∧
      hint.message = (problemCause (encodeUtf8 expansion.text) node).message ∧
      hint.position.line = tracedLine expansion.text row ∧
      (IsShownRow expansion.text row → PlainUpTo expansion.text row →
        hint.position.line = originLine (rows expansion.text) row - 1) := by
  have hmap : expansion.lines = lineMap (visualLines expansion.text) := by
    rw [Expand.Expansion.ofText] at hlines
    split at hlines
    · simp at hlines
    · exact (congrArg Expand.Expansion.lines (Except.ok.inj hlines)).symm
  have hfindings : findingsWith config parse? expand source = treeFindings config.grammarMaxIssues
      ⟨expansion.text, lineMap (visualLines expansion.text)⟩ root := by
    rw [findingsWith, hparsed, hroot, hmap]
    rfl
  refine ⟨(problemFinding (encodeUtf8 expansion.text) (lineMap (visualLines expansion.text))
    node).toDiagnostic, ?_, rfl, line_problemFinding hrow, fun hshown hplain => ?_⟩
  · rw [diagnosticsOf, List.getElem?_map, hfindings, getElem?_treeFindings hnode, Option.map_some]
  · rw [line_problemFinding hrow, tracedLine_of_plain hshown hplain]

/-- A problem of one character in row 3. -/
def problemNode : Node :=
  .mk
    { type := "ERROR", startByte := 73, endByte := 74, startRow := 3, startColumn := 22,
      endRow := 3, hasError := true } []

/-- A parse tree with one problem. -/
def problemTree : Node :=
  .mk
    { type := "translation_unit", startByte := 0, endByte := 80, startRow := 0, startColumn := 0,
      endRow := 4, hasError := true } [problemNode]

/-- A program with an unknown macro in it and ten lines between its two items. -/
def distantItems : List Char :=
  "string s = PAGE;\n\n\n\n\n\n\n\n\n\ntask main() \x7b int y = = 1; \x7d\n".toList

/-- The expanded program when the macro stands for a plain string. -/
def plainExpansion : Expand.Expansion :=
  ⟨("#line 1 \"<nxc>\"\nchar*  s = \"a b\";\n" ++
    "#line 11 \"<nxc>\"\nvoid main() \x7b int y = = 1; \x7d\n").toList, [1, 1, 10, 11]⟩

/-- The expanded program when the macro stands for a string with a form feed in it. -/
def pagedExpansion : Expand.Expansion :=
  ⟨("#line 1 \"<nxc>\"\nchar*  s = \"a\x0cb\";\n" ++
    "#line 11 \"<nxc>\"\nvoid main() \x7b int y = = 1; \x7d\n").toList, [1, 1, 2, 10, 11]⟩

/-- The only problem of the tree is shown. -/
theorem getElem?_shownProblems_problemTree :
    (shownProblems ({} : Config).grammarMaxIssues problemTree)[0]? = some problemNode := by
  cbv

/-- Without unusual line breaks, the hint stands in the line that the program has the problem in. -/
theorem hintLine_plainExpansion :
    Expand.Expansion.ofText plainExpansion.text = .ok plainExpansion ∧
      IsShownRow plainExpansion.text 3 ∧ PlainUpTo plainExpansion.text 3 ∧
      ∃ hint, (diagnosticsOf (findingsWith {} (fun _ => some problemTree)
        (fun _ => .ok plainExpansion) distantItems))[0]? = some hint ∧ hint.position.line = 10 := by
  have hlines : Expand.Expansion.ofText plainExpansion.text = .ok plainExpansion := by cbv
  have hshown : IsShownRow plainExpansion.text 3 := ⟨_, rfl, .inr (by decide)⟩
  have hplain : PlainUpTo plainExpansion.text 3 := by decide
  have hmarker : originLine (rows plainExpansion.text) 3 = 11 := by decide
  obtain ⟨hint, hhint, _, _, hline⟩ := @hintLine_of_problem {} (fun _ => some problemTree)
    (fun _ => .ok plainExpansion) distantItems plainExpansion problemTree problemNode 0 3 hlines rfl
    rfl getElem?_shownProblems_problemTree rfl
  refine ⟨hlines, hshown, hplain, hint, hhint, ?_⟩
  rw [hline hshown hplain, hmarker]

/-- A form feed in front of the last line marker shifts the hint by one line: the markers of the
rows say line 11, and the hint stands in line 10. -/
theorem hintLine_pagedExpansion :
    Expand.Expansion.ofText pagedExpansion.text = .ok pagedExpansion ∧
      IsShownRow pagedExpansion.text 3 ∧ originLine (rows pagedExpansion.text) 3 - 1 = 10 ∧
      ∃ hint, (diagnosticsOf (findingsWith {} (fun _ => some problemTree)
        (fun _ => .ok pagedExpansion) distantItems))[0]? = some hint ∧ hint.position.line = 9 := by
  have hlines : Expand.Expansion.ofText pagedExpansion.text = .ok pagedExpansion := by cbv
  have hfindings : findingsWith {} (fun _ => some problemTree) (fun _ => .ok pagedExpansion)
      distantItems = treeFindings ({} : Config).grammarMaxIssues
        ⟨pagedExpansion.text, pagedExpansion.lines⟩ problemTree := rfl
  have hmarker : originLine (rows pagedExpansion.text) 3 = 11 := by decide
  refine ⟨hlines, ⟨_, rfl, .inr (by decide)⟩, by rw [hmarker],
    (problemFinding (encodeUtf8 pagedExpansion.text) pagedExpansion.lines
      problemNode).toDiagnostic, ?_, rfl⟩
  rw [diagnosticsOf, List.getElem?_map, hfindings,
    getElem?_treeFindings getElem?_shownProblems_problemTree, Option.map_some]

end BrickLint.Grammar
