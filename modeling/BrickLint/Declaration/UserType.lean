import BrickLint.Catalog
import BrickLint.Header
import BrickLint.Token

/-!
# User types and enumerators

One pass over the tokens of a source collects the names of structures, unions, enumerations and
type definitions, and the members of enumerations.
-/

namespace BrickLint

open Text

/-- What the pass over the tokens keeps. -/
structure TypeNames where
  /-- How many braces are open. -/
  depth : Nat := 0
  /-- The next token may be a tag. -/
  expectTag : Bool := false
  /-- An enumeration has been announced and its brace has not come. -/
  pendingEnum : Bool := false
  /-- How many braces were open before the innermost enumeration. -/
  enumDepth : Option Nat := none
  /-- The next identifier is a member of the enumeration. -/
  expectItem : Bool := false
  /-- How many braces were open before the type definition. -/
  typedefDepth : Option Nat := none
  /-- The last identifier of the statement. -/
  lastIdent : Option String := none
  /-- The type names found so far. -/
  types : List String := []
  /-- The enumerators found so far. -/
  enumConstants : List String := []
  deriving DecidableEq, Repr

namespace TypeNames

/-- Whether the current token stands directly inside the braces of an enumeration. -/
def inEnumBody (s : TypeNames) : Bool :=
  s.enumDepth.any fun depth => s.depth == depth + 1

/-- Adds a type name unless it is a keyword. -/
def addType (catalog : Catalog) (name : String) (s : TypeNames) : TypeNames :=
  if catalog.isKeyword name then s else { s with types := s.types.insert name }

/-- Reads an identifier. -/
def ident (catalog : Catalog) (s : TypeNames) (name : String) : TypeNames :=
  if s.expectTag then addType catalog name { s with expectTag := false }
  else if tagWords.contains name then
    { s with expectTag := true, pendingEnum := name == "enum" }
  else if name = "typedef" then { s with typedefDepth := some s.depth }
  else if s.inEnumBody && s.expectItem then
    { s with
      enumConstants := s.enumConstants.insert name
      expectItem := false
      lastIdent := some name }
  else { s with lastIdent := some name }

/-- Ends a statement. The last identifier of a type definition is its name. -/
def endStatement (catalog : Catalog) (s : TypeNames) : TypeNames :=
  let s := { s with pendingEnum := false }
  let s :=
    if s.typedefDepth = some s.depth then
      { s.lastIdent.elim s (addType catalog · s) with typedefDepth := none }
    else s
  { s with lastIdent := none }

/-- Reads a punctuation token. -/
def punct (catalog : Catalog) (s : TypeNames) (text : String) : TypeNames :=
  let s := { s with expectTag := false }
  if text = "\x7b" then
    let s :=
      if s.pendingEnum then
        { s with enumDepth := some s.depth, expectItem := true, pendingEnum := false }
      else s
    { s with depth := s.depth + 1 }
  else if text = "\x7d" then
    let depth := s.depth - 1
    { s with depth := depth, enumDepth := s.enumDepth.filter (· != depth) }
  else if text = "," then if s.inEnumBody then { s with expectItem := true } else s
  else if text = ";" then endStatement catalog s
  else s

/-- Reads a token. -/
def step (catalog : Catalog) (s : TypeNames) (token : Token) : TypeNames :=
  match token.kind with
  | .ident => s.ident catalog token.text
  | .number => s
  | .punct => s.punct catalog token.text

end TypeNames

/-- The type names and enumerators of the lines of a source (`_collect_types`). Directive lines are
passed over. -/
def collectTypeNames (catalog : Catalog) (lines : List (List Char)) : TypeNames :=
  let code := lines.filter fun line => (stripStart line).head? != some '#'
  (code.flatMap tokenize).foldl (TypeNames.step catalog) {}

end BrickLint
