import BrickLint.Catalog.Entry
import BrickLint.Catalog.Names
import BrickLint.FileStore
import BrickLint.Text.Lines
import BrickLint.Text.Utf8

/-!
# Catalogs

A catalog holds the names that a program may use without declaring them. It is read from a file of
signatures, which is installed with the program unless another one is named, and, optionally, a file
of further constants. When the file of signatures cannot be read or holds none, the catalog is
*degraded*: only the essential functions are left.
-/

namespace BrickLint

open Text

/-- The names that need no declaration (`BuiltInCatalog`). -/
structure Catalog where
  /-- The functions, in the order in which they are suggested. -/
  functionNames : List String
  /-- The constants. -/
  constants : List String
  /-- The keywords. -/
  keywords : List String
  /-- The parameters of the functions that were read, in order. -/
  signatures : List (String × String)
  /-- Where the signatures came from. -/
  source : String
  /-- Whether only the essential functions are left. -/
  degraded : Bool
  deriving DecidableEq

namespace Catalog

/-- Whether a name is a built-in function (`is_function`). -/
def isFunction (catalog : Catalog) (name : String) : Bool :=
  catalog.functionNames.contains name

/-- Whether a name is a built-in constant. -/
def isConstant (catalog : Catalog) (name : String) : Bool :=
  catalog.constants.contains name

/-- Whether a name is a keyword. -/
def isKeyword (catalog : Catalog) (name : String) : Bool :=
  catalog.keywords.contains name

/-- Whether a name needs no declaration (`is_known`). -/
def isKnown (catalog : Catalog) (name : String) : Bool :=
  catalog.isKeyword name || catalog.isConstant name || catalog.isFunction name

/-- The parameters of a function (`signature`). -/
def signature? (catalog : Catalog) (name : String) : Option String :=
  catalog.signatures.lookup name

/-- Appends the names that are not there yet. -/
def appendNew (names extra : List String) : List String :=
  extra.foldl (fun names name => if names.contains name then names else names ++ [name]) names

/-- Where the file of signatures is installed that is read when no other one is named
(`DEFAULT_API_PATH`). -/
def defaultPath : String :=
  "/nxcheck/data/nxc_api.txt"

/-- The name under which the essential functions appear when nothing else is left
(`FALLBACK_SOURCE`). -/
def embeddedSource : String :=
  "<embedded>"

/-- The catalog of the given signatures and further constants. -/
def ofSignatures (signatures : List (String × String)) (constants : List String)
    (source : String) : Catalog where
  functionNames := appendNew (signatures.map (·.1)) essentialFunctions
  constants := appendNew builtinConstants constants
  keywords := keywordNames
  signatures := signatures
  source := if signatures.isEmpty then embeddedSource else source
  degraded := signatures.isEmpty

/-- The lines of a file, read as UTF-8 (`_read_lines`). -/
def fileLines? (files : FileStore) (path : String) : Option (List (List Char)) :=
  (files.read? path.toList).map fun bytes => visualLines (decodeUtf8 bytes)

/-- Reads a catalog (`load_catalog`). A file that cannot be read holds nothing. -/
def load (files : FileStore) (source constantsSource : Option String) : Catalog :=
  let path := source.getD defaultPath
  ofSignatures ((fileLines? files path).elim [] parseSignatures)
    ((constantsSource.bind (fileLines? files)).elim [] parseConstants) path

/-- Whether the sources of a catalog are paths at all. -/
def validSources (source constantsSource : Option String) : Bool :=
  [source, constantsSource].all fun path => path.all fun path => FileStore.isValidPath path.toList

/-- Reads a catalog, unless a source is no path. -/
def load? (files : FileStore) (source constantsSource : Option String) : Option Catalog :=
  if validSources source constantsSource then some (load files source constantsSource) else none

end Catalog

end BrickLint
