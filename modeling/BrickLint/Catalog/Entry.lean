import BrickLint.Text.After

/-!
# Entries of a catalog file

A catalog file lists one function per line, as a name with its parameters in parentheses. A file of
constants lists one name per line, with an optional value. Blank lines and lines that start with
`//` or `#` are remarks, and lines of any other form are passed over.
-/

namespace BrickLint.Catalog

open Text

/-- The text of a line that holds an entry, without the blanks around it. -/
def entryText? (raw : List Char) : Option (List Char) :=
  let line := strip raw
  if line.isEmpty || "//".toList.isPrefixOf line || "#".toList.isPrefixOf line then none
  else some line

/-- Drops one character from the start of a text if it is there. -/
def dropChar (c : Char) (cs : List Char) : List Char :=
  if cs.head? = some c then cs.tail else cs

/-- What may follow the parameters: a closing parenthesis and a semicolon, both optional, and
blanks. -/
def isSignatureEnd (cs : List Char) : Bool :=
  (dropChar ';' (stripStart (dropChar ')' cs))).all isBlank

/-- The shortest text after which a signature can end. It stays on one row. -/
def parameterText? : List Char → Option (List Char)
  | [] => some []
  | c :: cs =>
    if isSignatureEnd (c :: cs) then some []
    else if c = '\n' then none
    else (parameterText? cs).map (c :: ·)

/-- The name and the parameters of a signature. -/
def parseSignature? (line : List Char) : Option (String × String) := do
  let (name, rest) ← splitIdent? line
  let parameters ← parameterText? (← afterChar? '(' (stripStart rest))
  return (String.ofList name, String.ofList (strip parameters))

/-- The signatures of a list of lines, in order (`parse_signatures`). The first signature of a name
wins. -/
def parseSignatures (lines : List (List Char)) : List (String × String) :=
  let signatures := lines.filterMap fun raw => (entryText? raw).bind parseSignature?
  signatures.foldl (fun table entry =>
    if table.any (·.1 == entry.1) then table else table ++ [entry]) []

/-- What may follow the name of a constant: nothing, or an equals sign and a value on one row. -/
def isConstantValue (cs : List Char) : Bool :=
  match cs with
  | [] => true
  | '=' :: value => !(stripStart value).isEmpty && !(stripStart value).contains '\n'
  | _ => false

/-- The name of a constant. -/
def parseConstant? (line : List Char) : Option String := do
  let (name, rest) ← splitIdent? line
  if isConstantValue (stripStart rest) then some (String.ofList name) else none

/-- The constants of a list of lines, in order and with repetitions (`parse_constants`). -/
def parseConstants (lines : List (List Char)) : List String :=
  lines.filterMap fun raw => (entryText? raw).bind parseConstant?

end BrickLint.Catalog
