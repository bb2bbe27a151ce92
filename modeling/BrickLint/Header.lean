import BrickLint.Text.After

/-!
# Function headers

The header of a function, task or subroutine at the start of a line: modifiers, a type and a name,
followed by the opening parenthesis of the parameters. Every word before the name may also be read
as the type, so the readings are tried in turn, those with more words before the type first.
-/

namespace BrickLint

open Text

/-- Types of variables. -/
def variableTypes : List String :=
  ["int", "float", "byte", "char", "string", "bool", "mutex", "long", "short", "unsigned",
    "signed", "variant"]

/-- Words that stand for the type of a function only. -/
def functionTypes : List String :=
  ["task", "sub", "void"]

/-- Modifiers of a header. -/
def modifierWords : List String :=
  ["inline", "safecall", "static", "const"]

/-- Words that announce the tag of a structured type. -/
def tagWords : List String :=
  ["struct", "enum", "union"]

/-- Words that give a type its sign. -/
def signWords : List String :=
  ["unsigned", "signed"]

/-- A header that was recognised. -/
structure HeaderMatch where
  /-- The name of the function. -/
  name : String
  /-- The column of the name. -/
  column : Nat
  /-- The column just after the opening parenthesis. -/
  stop : Nat
  deriving DecidableEq, Repr

/-- The ways to pass over at least `least` blanks, the longest first. Blanks are left over only if
`givesBack` is set. -/
def afterBlankRun (givesBack : Bool) (least : Nat) (cs : List Char) : List (List Char) :=
  let count := (cs.takeWhile isBlank).length
  let fewest := if givesBack then least else max least count
  ((List.range' fewest (count + 1 - fewest)).map cs.drop).reverse

/-- The ways to pass over one of several words and the blanks behind it. -/
def afterWordAndBlanks (givesBack : Bool) (words : List String) (cs : List Char) :
    List (List Char) :=
  (afterWord? words cs).elim [] (afterBlankRun givesBack 1)

/-- The ways to pass over modifiers at the start of a text, the longest first; `fuel` bounds their
number. -/
def afterModifiers (givesBack : Bool) : Nat → List Char → List (List Char)
  | 0, cs => [cs]
  | fuel + 1, cs =>
    (afterWordAndBlanks givesBack modifierWords cs).flatMap (afterModifiers givesBack fuel) ++ [cs]

/-- The ways to pass over an optional word: with it if it is there, and without it. -/
def afterOptional (givesBack : Bool) (words : List String) (cs : List Char) : List (List Char) :=
  afterWordAndBlanks givesBack words cs ++ [cs]

/-- Whether a word can end between two texts: exactly one of the neighbouring characters is a word
character. A type is preceded by a blank or by nothing. -/
def isTypeEnd (type rest : List Char) : Bool :=
  type.getLast?.any isWordChar != rest.head?.any isWordChar

/-- The types in the order in which they are tried, the longest first. Without any type there is an
empty one. -/
def longestFirst (types : List String) : List (List Char) :=
  let types := if types.isEmpty then [""] else types
  (types.map String.toList).mergeSort fun a b => b.length ≤ a.length

/-- The ways to pass over one of the types, which are tried in order. -/
def afterTypes (types : List (List Char)) (cs : List Char) : List (List Char) :=
  types.filterMap fun type =>
    (type.isPrefixOf? cs).bind fun rest => if isTypeEnd type rest then some rest else none

/-- Drops empty pairs of square brackets, with the blanks around them; `fuel` bounds their
number. -/
def dropEmptySubscripts : Nat → List Char → List Char
  | 0, cs => cs
  | fuel + 1, cs =>
    match cs with
    | '[' :: rest =>
      match stripStart rest with
      | ']' :: rest => dropEmptySubscripts fuel (stripStart rest)
      | _ => cs
    | _ => cs

/-- Drops the mark of a pointer or a reference and the blanks behind it. -/
def dropIndirection : List Char → List Char
  | '*' :: rest => stripStart rest
  | '&' :: rest => stripStart rest
  | cs => cs

/-- The name of a function behind its type. The line has `length` characters. -/
def headerName? (length : Nat) (cs : List Char) : Option HeaderMatch := do
  let cs := dropIndirection (dropEmptySubscripts cs.length (stripStart cs))
  let (name, behind) ← splitIdent? cs
  let rest ← afterChar? '(' (stripStart behind)
  return ⟨String.ofList name, length - cs.length, length - rest.length⟩

/-- The header at the start of a line, for given types (`header_pattern`). A type that starts with a
blank may take blanks over from what stands before it. -/
def matchHeader? (types : List String) (line : List Char) : Option HeaderMatch :=
  let types := longestFirst types
  let givesBack := types.any fun type => type.head?.any isBlank
  let starts := afterBlankRun givesBack 0 line
  let starts := starts.flatMap (afterModifiers givesBack line.length)
  let starts := starts.flatMap (afterOptional givesBack tagWords)
  let starts := starts.flatMap (afterOptional givesBack signWords)
  (starts.flatMap (afterTypes types)).findSome? (headerName? line.length)

/-- Whether a parameter list, of which `depth` parentheses are open, closes on the line and is
followed by a semicolon. -/
def endsAsPrototype (depth : Nat) : List Char → Bool
  | [] => false
  | c :: cs =>
    if c = '(' then endsAsPrototype (depth + 1) cs
    else if c = ')' then
      if depth ≤ 1 then (stripStart cs).head? == some ';' else endsAsPrototype (depth - 1) cs
    else endsAsPrototype depth cs

/-- Whether a header that was recognised on a line is a prototype (`_is_prototype`). -/
def HeaderMatch.isPrototype (header : HeaderMatch) (line : List Char) : Bool :=
  endsAsPrototype 1 (line.drop header.stop)

end BrickLint
