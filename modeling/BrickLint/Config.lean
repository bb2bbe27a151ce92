import BrickLint.Double
import BrickLint.Text.Blank

/-!
# Configuration

The options of an analysis. Five of them are switches for single findings.
-/

namespace BrickLint

open Text

/-- The options of an analysis and of the session that runs it (`AnalyzerConfig`). -/
structure Config where
  /-- Longer lines are reported. -/
  maxLineLength : Int := 120
  /-- Show findings about style. -/
  checkStyle : Bool := true
  /-- Show missing semicolons. -/
  requireSemicolons : Bool := true
  /-- Show declarations that hide a built-in name. -/
  warnOnShadowing : Bool := true
  /-- Show the nearest built-in name for an unknown call. -/
  suggestBuiltins : Bool := true
  /-- Show variables that are never read. -/
  reportUnusedVariables : Bool := false
  /-- Run the advisory grammar pass on programs without errors. -/
  grammarCheck : Bool := false
  /-- Expand definitions and conditions before the grammar pass. -/
  grammarPreprocess : Bool := true
  /-- How many grammar problems are shown; a negative number leaves out that many at the end. -/
  grammarMaxIssues : Int := 10
  /-- Definitions that hold before the first line, in order. -/
  defines : List (String × String) := []
  /-- How long a scheduled analysis waits, in seconds. -/
  debounceSeconds : Double := .finite (1 / 2)
  deriving DecidableEq

/-- Sets the value of a name in a table. A name that is there keeps its place. -/
def setDefine (name value : String) : List (String × String) → List (String × String)
  | [] => [(name, value)]
  | (key, old) :: rest =>
    if key = name then (name, value) :: rest else (key, old) :: setDefine name value rest

/-- Adds one item of a list of definitions to a table. An empty item adds nothing, and a bare name
stands for one. -/
def addDefineItem (table : List (String × String)) (item : List Char) : List (String × String) :=
  let item := strip item
  if item.isEmpty then table
  else
    match item.dropWhile (· != '=') with
    | [] => setDefine (String.ofList item) "1" table
    | _ :: value =>
      setDefine (String.ofList (strip (item.takeWhile (· != '='))))
        (String.ofList (strip value)) table

/-- Reads a list of definitions such as `DEBUG,SPEED=75` (`parse_defines`). -/
def parseDefines (spec : List Char) : List (String × String) :=
  (spec.splitOn ',').foldl addDefineItem []

end BrickLint
