import BrickLint.Service.Markdown
import BrickLint.Session

/-!
# Service

The tools of a service around one session: setting options, loading a catalog, analysing a text or a
file, and asking about names. Every tool answers with a text. A tool that cannot do its work answers
with an error and changes nothing.
-/

namespace BrickLint.Service

/-- The arguments of the tool that sets options. -/
structure Options where
  /-- Longer lines are reported. -/
  maxLineLength : Int := 120
  /-- Show findings about style. -/
  checkStyle : Bool := true
  /-- Show declarations that hide a built-in name. -/
  warnOnShadowing : Bool := true
  /-- Show variables that are never read. -/
  reportUnusedVariables : Bool := false
  /-- Run the grammar pass. -/
  grammarCheck : Bool := false
  /-- A list of definitions. -/
  defines : String := ""

/-- The word for a switch. -/
def onOff (b : Bool) : String :=
  if b then "on" else "off"

/-- Sets options (`configure`). Options that the tool has no argument for keep their values. -/
def configure (s : Session) (options : Options) : String × Session :=
  if options.maxLineLength < 1 then ("Error: max_line_length must be positive.", s)
  else
    let config := { s.config with
      maxLineLength := options.maxLineLength
      checkStyle := options.checkStyle
      warnOnShadowing := options.warnOnShadowing
      reportUnusedVariables := options.reportUnusedVariables
      grammarCheck := options.grammarCheck
      defines := parseDefines options.defines.toList }
    ("Configuration updated: max line length " ++ toString config.maxLineLength ++
      ", style " ++ onOff config.checkStyle ++
      ", shadowing " ++ onOff config.warnOnShadowing ++
      ", unused variables " ++ onOff config.reportUnusedVariables ++
      ", grammar pass " ++ onOff config.grammarCheck ++
      ", " ++ toString config.defines.length ++ " define(s).",
      s.updateConfig config)

/-- A path, if one is given. -/
def path? (path : String) : Option String :=
  if path.isEmpty then none else some path

/-- Whether a path is given and leads nowhere. -/
def isMissing (files : FileStore) (path : String) : Bool :=
  !path.isEmpty && !files.contains path.toList

/-- Loads a catalog (`load_catalog`). Empty paths stand for the bundled signatures and for no
further constants. -/
def loadCatalog (s : Session) (files : FileStore) (apiPath constantsPath : String) :
    String × Session :=
  if isMissing files apiPath then ("Error: Catalog file not found at " ++ apiPath, s)
  else if isMissing files constantsPath then
    ("Error: Constants file not found at " ++ constantsPath, s)
  else
    let catalogs : CatalogCache :=
      { source := path? apiPath
        constantsSource := path? constantsPath
        loads := s.catalogs.loads }
    let (catalog, s) := { s with catalogs := catalogs }.currentCatalog files
    let summary := "Loaded catalog from `" ++ catalog.source ++ "`: " ++
      s!"{catalog.functionNames.length} functions, {catalog.constants.length} constants, " ++
      s!"{catalog.keywords.length} keywords."
    let warning := "\n**Warning:** source unreadable or empty, using the embedded essential set."
    (if catalog.degraded then summary ++ warning else summary, s)

/-- Analyses a text (`analyze_source`). Negative versions stand for no version. -/
def analyzeSource (tools : Grammar.Tools) (s : Session) (files : FileStore) (source : List Char)
    (document : String) (version : Int) : String × Session :=
  let version := if 0 ≤ version then some version else none
  let (kept, s) := s.analyzeDocument tools files ⟨document, source, version⟩
  (renderResult kept.result document none, s)

/-- Analyses a file and shows the lines around each diagnostic (`analyze_file`). -/
def analyzeFile (tools : Grammar.Tools) (s : Session) (files : FileStore) (path root : String) :
    String × Session :=
  if !files.contains root.toList then ("Error: Workspace root not found at " ++ root, s)
  else
    match readSource? files root.toList path.toList with
    | none => ("Error: Cannot read " ++ path, s)
    | some text =>
      let document := String.ofList (path.toList.map fun c => if c = '\\' then '/' else c)
      let (kept, s) := s.analyzeDocument tools files ⟨document, text, none⟩
      (renderResult kept.result path (some text), s)

/-- A call of a function with its parameters. -/
def signatureText (name parameters : String) : String :=
  "`" ++ name ++ "(" ++ parameters ++ ")`"

/-- Looks for the built-in function that a name stands for or comes near to (`suggest_name`). -/
def suggestName (s : Session) (files : FileStore) (name : String) : String × Session :=
  let (catalog, s) := s.currentCatalog files
  let answer :=
    if catalog.isFunction name then
      "`" ++ name ++ "` is a built-in function" ++
        match catalog.signature? name with
        | some parameters => ": " ++ signatureText name parameters
        | none => "."
    else
      match suggest name.toList catalog.functionNames with
      | none => "No built-in function is close to `" ++ name ++ "`."
      | some best =>
        let distance :=
          editDistance (Text.lowercase name.toList) (Text.lowercase best.toList)
        "Did you mean `" ++ best ++ s!"`? (edit distance {distance})" ++
          match catalog.signature? best with
          | some parameters => "\n\nSignature: " ++ signatureText best parameters
          | none => ""
  (answer, s)

/-- Describes the catalog (`catalog_summary`). -/
def catalogSummary (s : Session) (files : FileStore) : String × Session :=
  let (catalog, s) := s.currentCatalog files
  let sample := ", ".intercalate (catalog.functionNames.take 10)
  let row := fun (item value : String) => "| " ++ item ++ " | " ++ value ++ " |\n"
  ("## NXC Built-in Catalog\n\n| Item | Value |\n|---|---|\n" ++
    row "Source" ("`" ++ catalog.source ++ "`") ++
    row "Functions" (toString catalog.functionNames.length) ++
    row "Constants" (toString catalog.constants.length) ++
    row "Keywords" (toString catalog.keywords.length) ++
    row "Degraded" (if catalog.degraded then "yes" else "no") ++
    "\nFirst functions: " ++ sample, s)

/-- A call of one of the tools. -/
inductive Call where
  /-- Sets options. -/
  | configure (options : Options)
  /-- Loads a catalog. -/
  | loadCatalog (apiPath constantsPath : String)
  /-- Analyses a text. -/
  | analyzeSource (source : List Char) (document : String) (version : Int)
  /-- Analyses a file. -/
  | analyzeFile (path root : String)
  /-- Looks for a built-in function. -/
  | suggestName (name : String)
  /-- Describes the catalog. -/
  | catalogSummary

/-- Performs a call: the answer, and the session behind it. -/
def perform (tools : Grammar.Tools) (s : Session) (files : FileStore) : Call → String × Session
  | .configure options => configure s options
  | .loadCatalog apiPath constantsPath => loadCatalog s files apiPath constantsPath
  | .analyzeSource source document version =>
    analyzeSource tools s files source document version
  | .analyzeFile path root => analyzeFile tools s files path root
  | .suggestName name => suggestName s files name
  | .catalogSummary => catalogSummary s files

end BrickLint.Service
