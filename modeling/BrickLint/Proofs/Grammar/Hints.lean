import BrickLint.Proofs.Analysis
import BrickLint.Proofs.Grammar.Items
import Mathlib

/-!
# Hints of the grammar pass

The grammar pass reports the outermost problems of a parse tree, in document order and up to a
limit, and a program without an entry point. The problems are found with a list of trees that are
still to be searched; what is found is what a recursion over the tree finds.
-/

namespace BrickLint.Grammar

open Text

/-- The outermost problems of a tree: the tree itself if it is a problem, and otherwise those of its
children, provided that it holds an error. -/
def outermost : Node → List Node
  | .mk info children =>
    if isProblem (.mk info children) then [.mk info children]
    else if info.hasError then ofChildren children else []
where
  /-- The outermost problems of several trees. -/
  ofChildren : List Node → List Node
    | [] => []
    | node :: rest => outermost node ++ ofChildren rest

/-- The outermost problems of several trees are those of each of them. -/
theorem outermost_ofChildren (nodes : List Node) :
    outermost.ofChildren nodes = nodes.flatMap outermost := by
  induction nodes with
  | nil => rfl
  | cons node rest ih => rw [outermost.ofChildren, ih, List.flatMap_cons]

/-- The outermost problems of a tree, by those of its children. -/
theorem outermost_eq (node : Node) :
    outermost node =
      if isProblem node then [node]
      else if node.info.hasError then node.children.flatMap outermost else [] := by
  obtain ⟨info, children⟩ := node
  rw [outermost, outermost_ofChildren]
  rfl

/-- Searching a list of trees finds the outermost problems of each of them. -/
theorem problems_eq_flatMap (nodes : List Node) : problems nodes = nodes.flatMap outermost := by
  induction nodes using problems.induct with
  | case1 => rw [problems]; rfl
  | case2 node rest hproblem ih =>
    rw [problems, if_pos hproblem, ih, List.flatMap_cons, outermost_eq, if_pos hproblem]
    rfl
  | case3 node rest hproblem herror ih =>
    rw [problems, if_neg hproblem, if_pos herror, ih, List.flatMap_append, List.flatMap_cons,
      outermost_eq node, if_neg hproblem, if_pos herror]
  | case4 node rest hproblem herror ih =>
    rw [problems, if_neg hproblem, if_neg herror, ih, List.flatMap_cons, outermost_eq node,
      if_neg hproblem, if_neg herror, List.nil_append]

/-- What the hint about a problem says. -/
structure IsHintAbout (parsed : Parsed) (node : Node) (hint : Diagnostic) : Prop where
  /-- It is a hint of the grammar pass. -/
  kind : hint.severity = .hint ∧ hint.source = "grammar-check"
  /-- It names the type of a missing node, or the start of the text that has no place. -/
  message : hint.message =
    if node.info.missing then "Grammar: missing '" ++ node.type ++ "'"
    else "Grammar: unexpected syntax near '" ++
      String.ofList (snippet (node.text (encodeUtf8 parsed.text))) ++ "'"
  /-- It stands on the line that the first row of the problem comes from. -/
  line : hint.position.line = (sourceLine parsed.lines node.info.startRow).toNat
  /-- It stands in the column of the first byte of the problem. -/
  column : hint.position.column = node.info.startColumn.toNat
  /-- It covers a problem within one row, and one character of any other. -/
  length : hint.length = if node.info.startRow = node.info.endRow then
    max 1 (node.info.endByte - node.info.startByte).toNat else 1

/-- The hint about a program without an entry point. -/
def noEntryPointHint : Diagnostic :=
  ⟨"No \"main\" function or task found", .hint, ⟨0, 0⟩, 1, "grammar-check"⟩

/-- Problems are the concern of the grammar pass. -/
theorem source_problemCause (source : List UInt8) (node : Node) :
    (problemCause source node).source = "grammar-check" := by
  unfold problemCause
  split <;> rfl

/-- The words about a problem. -/
theorem message_problemCause (source : List UInt8) (node : Node) :
    (problemCause source node).message =
      if node.info.missing then "Grammar: missing '" ++ node.type ++ "'"
      else "Grammar: unexpected syntax near '" ++
        String.ofList (snippet (node.text source)) ++ "'" := by
  have hquoted : ∀ lead text : String, lead ++ quoted text = lead ++ "'" ++ text ++ "'" := by
    intro lead text
    rw [quoted, String.append_assoc, String.append_assoc, String.append_assoc]
  unfold problemCause
  split
  · exact hquoted "Grammar: missing " node.type
  · exact hquoted "Grammar: unexpected syntax near " _

/-- The finding about a problem is shown by the hint about it. -/
theorem isHintAbout_problemFinding (parsed : Parsed) (node : Node) :
    IsHintAbout parsed node
      (problemFinding (encodeUtf8 parsed.text) parsed.lines node).toDiagnostic where
  kind := ⟨severity_problemCause _ node, source_problemCause _ node⟩
  message := message_problemCause _ node
  line := rfl
  column := rfl
  length := by
    by_cases hrow : node.info.startRow = node.info.endRow
    · simp [problemFinding, Finding.toDiagnostic, Diagnostic.at, hrow]
    · simp [problemFinding, Finding.toDiagnostic, Diagnostic.at, hrow]

/-- The grammar pass gives hints about the outermost problems of the parse tree, in document order
and as many as the options allow; about none when the tree holds no error. One more hint follows
exactly if no item of the program defines a function with the name of the entry point. -/
theorem hints_of_tree {config : Config} {parse? : List Char → Option Node}
    {expand : List Char → Except Expand.ExpansionFault Expand.Expansion} {source : List Char}
    {parsed : Parsed} {root : Node} (hparsed : prepare config expand source = parsed)
    (hroot : parse? parsed.text = some root) :
    ∃ hints last, diagnosticsOf (findingsWith config parse? expand source) = hints ++ last ∧
      List.Forall₂ (IsHintAbout parsed)
        (if root.info.hasError then takeUpTo config.grammarMaxIssues (outermost root) else [])
        hints ∧
      ((∃ item, IsItemOf item root ∧ DefinesFunction (encodeUtf8 parsed.text) "main" item) →
        last = []) ∧
      ((¬∃ item, IsItemOf item root ∧ DefinesFunction (encodeUtf8 parsed.text) "main" item) →
        last = [noEntryPointHint]) := by
  have hentry : "main" ≠ "" := by decide
  have hmain := List.contains_iff_mem.trans
    (@mem_functions_programInventory (encodeUtf8 parsed.text) "main" root hentry)
  have hfindings : findingsWith config parse? expand source =
      treeFindings config.grammarMaxIssues parsed root := by
    rw [findingsWith, hparsed, hroot]
    rfl
  rw [hfindings, treeFindings, diagnosticsOf_append, problems_eq_flatMap, List.flatMap_singleton,
    ← hmain]
  refine ⟨_, _, rfl, ?_, fun h => ?_, fun h => ?_⟩
  · rw [diagnosticsOf, List.map_map, List.forall₂_map_right_iff]
    exact List.forall₂_same.mpr fun node _ => isHintAbout_problemFinding parsed node
  · rw [if_pos h]
    rfl
  · rw [if_neg h]
    rfl

/-- A place where a semicolon is missing. -/
def missingMark : Node :=
  .mk
    { type := ";", startByte := 9, endByte := 9, startRow := 0, startColumn := 9, endRow := 0,
      missing := true, hasError := true, named := false } []

/-- A text without a place in the grammar, in front of another one. -/
def misplacedText : Node :=
  .mk
    { type := "ERROR", startByte := 5, endByte := 9, startRow := 0, startColumn := 5, endRow := 0,
      hasError := true } [missingMark]

/-- A function whose declarator is a pointer to the declarator of the entry point. -/
def pointedFunction : Node :=
  .mk
    { type := "function_definition", startByte := 0, endByte := 9, startRow := 0, startColumn := 0,
      endRow := 0 }
    [.mk
      { type := "pointer_declarator", startByte := 5, endByte := 9, startRow := 0,
        startColumn := 5, endRow := 0, field := some "declarator" }
      [.mk
        { type := "function_declarator", startByte := 5, endByte := 9, startRow := 0,
          startColumn := 5, endRow := 0, field := some "declarator" }
        [.mk
          { type := "identifier", startByte := 5, endByte := 9, startRow := 0, startColumn := 5,
            endRow := 0, field := some "declarator" } []]]]

/-- A program with a function and a problem in a group of directives, and a problem with another one
inside and another one behind it. -/
def groupedTree : Node :=
  .mk
    { type := "translation_unit", startByte := 0, endByte := 10, startRow := 0, startColumn := 0,
      endRow := 1, hasError := true }
    [.mk
      { type := "preproc_ifdef", startByte := 0, endByte := 9, startRow := 0, startColumn := 0,
        endRow := 0, hasError := true } [pointedFunction, missingMark],
      misplacedText, misplacedText]

/-- With a limit of two, the first two of three outermost problems are reported, and the entry point
is found in the group. -/
theorem hints_of_groupedTree :
    ∃ hints, diagnosticsOf (findingsWith { grammarPreprocess := false, grammarMaxIssues := 2 }
        (fun _ => some groupedTree) (fun _ => .error .failed) "void main\n".toList) = hints ∧
      List.Forall₂ (IsHintAbout (.plain "void main\n".toList)) [missingMark, misplacedText]
        hints := by
  have hparsed : prepare { grammarPreprocess := false, grammarMaxIssues := 2 }
      (fun _ => .error .failed) "void main\n".toList = .plain "void main\n".toList := by
    have htext : Dialect.toC "void main\n".toList = "void main\n".toList := by cbv
    rw [prepare, htext]
    rfl
  obtain ⟨hints, last, hdiagnostics, hhints, hentry, _⟩ :=
    @hints_of_tree _ (fun _ => some groupedTree) _ _ _ _ hparsed rfl
  have hlast := hentry ⟨pointedFunction, ?_, rfl, _, _, _, rfl, .inner (by decide) rfl (.here rfl),
    rfl, rfl, ?_⟩
  · rw [hlast, List.append_nil] at hdiagnostics
    exact ⟨hints, hdiagnostics, hhints⟩
  · exact .inGroup (List.mem_cons_self) (by decide) (.child (List.mem_cons_self))
  · decide +kernel

end BrickLint.Grammar
