import BrickLint.Config
import BrickLint.Dialect
import BrickLint.Diagnostic.Finding
import BrickLint.Expansion
import BrickLint.Grammar.Item

/-!
# Grammar pass

An advisory pass over programs without errors. The source is mapped to C, its definitions are
expanded, and the result is parsed. Each outermost problem of the parse tree gives a hint on the
line of the source that it comes from, and so does a program without an entry point. The expander
and the parser are programs of their own, and nothing is known of what they do.
-/

namespace BrickLint.Grammar

open Text

/-- The text that is parsed, and the lines of the source that its rows come from. -/
structure Parsed where
  /-- The text that is parsed. -/
  text : List Char
  /-- For each row, the number of the line that it comes from, counted from one. -/
  lines : List Nat

/-- A text that is parsed as it is. -/
def Parsed.plain (text : List Char) : Parsed :=
  ⟨text, List.range' 1 (text.count '\n' + 1)⟩

/-- Prepares a source for the parser (`_expand`). A source whose expansion fails or is blank is
parsed unexpanded. -/
def prepare (config : Config) (expand : List Char → Except Expand.ExpansionFault Expand.Expansion)
    (source : List Char) : Parsed :=
  let text := Dialect.toC source
  if !config.grammarPreprocess then .plain text
  else
    match expand text with
    | .error _ => .plain text
    | .ok expansion =>
      if expansion.text.all isBlank then .plain text else ⟨expansion.text, expansion.lines⟩

/-- Whether a node is a problem. -/
def isProblem (node : Node) : Bool :=
  node.type == "ERROR" || node.info.missing

/-- The outermost problems of several trees, in document order (`_problem_nodes`). Trees without an
error are not searched. -/
def problems : List Node → List Node
  | [] => []
  | node :: rest =>
    if isProblem node then node :: problems rest
    else if node.info.hasError then problems (node.children ++ rest)
    else problems rest
termination_by nodes => Node.size.sizes nodes
decreasing_by
  all_goals simp only [Node.size.sizes, Node.sizes_append, Node.size_eq]
  all_goals omega

/-- The first elements of a list: as many as `count` says, or all but that many of the last ones
when `count` is negative. -/
def takeUpTo {α : Type} (count : Int) (l : List α) : List α :=
  if 0 ≤ count then l.take count.toNat else l.take (l.length - (-count).toNat)

/-- The line of the source, counted from zero, that a row of the parsed text comes from. A row that
the text does not have stays as it is. -/
def sourceLine (lines : List Nat) (row : Int) : Int :=
  match (if 0 ≤ row then lines[row.toNat]? else none) with
  | some line => (line - 1 : Nat)
  | none => row

/-- The start of the first line of a problem. -/
def snippet (text : List Char) : List Char :=
  ((visualLines (strip text)).head?.getD []).take 30

/-- What a problem objects to. -/
def problemCause (source : List UInt8) (node : Node) : Cause :=
  if node.info.missing then .missingNode node.type
  else .unexpectedText (String.ofList (snippet (node.text source)))

/-- The finding about a problem. -/
def problemFinding (source : List UInt8) (lines : List Nat) (node : Node) : Finding :=
  let length : Int :=
    if node.info.startRow = node.info.endRow then node.info.endByte - node.info.startByte
    else 1
  ⟨problemCause source node, sourceLine lines node.info.startRow, node.info.startColumn, length⟩

/-- The findings about a parse tree. -/
def treeFindings (maxIssues : Int) (parsed : Parsed) (root : Node) : List Finding :=
  let source := encodeUtf8 parsed.text
  let shown := if root.info.hasError then takeUpTo maxIssues (problems [root]) else []
  shown.map (problemFinding source parsed.lines) ++
    if (programInventory source root).functions.contains "main" then []
    else [⟨.noEntryPoint, 0, 0, 1⟩]

/-- The findings of the pass, for a given parser and a given expansion (`_check`). When the parser
fails there are none. -/
def findingsWith (config : Config) (parse? : List Char → Option Node)
    (expand : List Char → Except Expand.ExpansionFault Expand.Expansion) (source : List Char) :
    List Finding :=
  let parsed := prepare config expand source
  (parse? parsed.text).elim [] (treeFindings config.grammarMaxIssues parsed)

/-- The programs that the pass calls, as they work at one moment. What they do may depend on the
files and on the clock. -/
structure Tools where
  /-- Expands a text under given definitions, in order. It fails or gives the expanded text. -/
  expand? : List (String × String) → List Char → Option (List Char)
  /-- Parses a text. It fails or gives a tree. -/
  parse? : List Char → Option Node

/-- Expands a text under given definitions and finds the lines that it comes from
(`PreprocessorEngine.preprocess`). -/
def Tools.preprocess (tools : Tools) (defines : List (String × String)) (text : List Char) :
    Except Expand.ExpansionFault Expand.Expansion :=
  match tools.expand? defines text with
  | some expanded => Expand.Expansion.ofText expanded
  | none => .error .failed

/-- The findings of the pass with given tools (`GrammarChecker.check`). -/
def findings (tools : Tools) (config : Config) (source : List Char) : List Finding :=
  findingsWith config tools.parse? (tools.preprocess config.defines) source

end BrickLint.Grammar
