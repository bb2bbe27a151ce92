import BrickLint.Header
import BrickLint.Region
import BrickLint.Text.Lines

/-!
# Mapping to C

Constructs that C does not have are replaced in place, so that no character moves: keywords give way
to stand-ins of the same length, and assembly blocks, reference marks and default values of
parameters are blanked. All of them are looked for in the scrubbed text and changed in the source,
which leaves comments and literals alone.
-/

namespace BrickLint.Dialect

open Text

/-- The keywords and their stand-ins. -/
def standIns : List (String × String) :=
  [("task", "void"), ("sub", "int"), ("safecall", ""), ("inline", ""), ("byte", "char"),
    ("bool", "char"), ("string", "char*"), ("mutex", "int"), ("variant", "int"),
    ("repeat", "while"), ("until", "while"), ("priority", "")]

/-- The stand-in of a word, filled up with spaces to the length of the word. -/
def standIn? (word : List Char) : Option (List Char) :=
  (standIns.lookup (String.ofList word)).map fun text =>
    text.toList ++ List.replicate (word.length - text.length) ' '

/-- The stand-ins of the keywords of a text, character by character. The flag tells that the
previous character is a word character, and `pending` is the rest of a stand-in that has been
started. -/
def keywordOverlay (afterWord : Bool) (pending : List Char) : List Char → List (Option Char)
  | [] => []
  | c :: cs =>
    match pending with
    | d :: rest => some d :: keywordOverlay true rest cs
    | [] =>
      let word := (c :: cs).takeWhile isWordChar
      match (if afterWord then none else standIn? word) with
      | some (d :: rest) => some d :: keywordOverlay true rest cs
      | _ => none :: keywordOverlay (isWordChar c) [] cs

/-- The length of a text through the brace that closes it, or to its end; `depth` braces are
open. -/
def bracedLength (depth : Nat) : List Char → Nat
  | [] => 0
  | c :: cs =>
    if c = '{' then bracedLength (depth + 1) cs + 1
    else if c = '}' then if depth ≤ 1 then 1 else bracedLength (depth - 1) cs + 1
    else bracedLength depth cs + 1

/-- The length of the assembly block at the start of a text, through its closing brace. -/
def asmLength? (cs : List Char) : Option Nat := do
  let rest ← "asm".toList.isPrefixOf? cs
  let body := stripStart rest
  if body.head? = some '{' then some (cs.length - body.length + bracedLength 0 body) else none

/-- Which characters of a text stand in an assembly block. The flag tells that the previous
character is a word character, and the next `inside` characters belong to a block that has been
found. -/
def asmMask (afterWord : Bool) (inside : Nat) : List Char → List Bool
  | [] => []
  | c :: cs =>
    let found := if afterWord then 0 else (asmLength? (c :: cs)).getD 0
    let inside := max inside found
    (0 < inside : Bool) :: asmMask (isWordChar c) (inside - 1) cs

/-- Types that a parameter can refer to. -/
def referenceTypes : List String :=
  ["int", "float", "char", "byte", "bool", "string", "long", "short", "unsigned", "mutex",
    "variant"]

/-- Which characters of a text mark a reference parameter. The first flag tells that the previous
character is a word character, the second that the last word is a type with only blanks behind
it. -/
def referenceMask (afterWord afterType : Bool) : List Char → List Bool
  | [] => []
  | c :: cs =>
    if isWordChar c then
      let word := String.ofList ((c :: cs).takeWhile isWordChar)
      false :: referenceMask true (if afterWord then afterType else referenceTypes.contains word) cs
    else if isBlank c then false :: referenceMask false afterType cs
    else (c == '&' && afterType) :: referenceMask false false cs

/-- Which characters of a parameter list belong to a default value. The flag tells that the previous
character does. -/
def valueMask (inside : Bool) : List Char → List Bool
  | [] => []
  | c :: cs =>
    let inside := c == '=' || (inside && c != ',')
    inside :: valueMask inside cs

/-- Which characters of a row belong to a default value: those of a header behind its parenthesis,
up to the first closing one. -/
def defaultMask (row : List Char) : List Bool :=
  match matchHeader? (variableTypes ++ functionTypes) row with
  | none => row.map fun _ => false
  | some header =>
    let parameters := (row.drop header.stop).takeWhile (· != ')')
    List.replicate header.stop false ++ valueMask false parameters ++
      List.replicate (row.length - header.stop - parameters.length) false

/-- Which characters of a text belong to a default value. -/
def defaultMasks (text : List Char) : List Bool :=
  [false].intercalate ((rows text).map defaultMask)

/-- The character that takes the place of `c`. A blanked line end stays. -/
def replaceChar (c : Char) (standIn : Option Char) (blanked : Bool) : Char :=
  if blanked && c != '\n' && c != '\r' then ' ' else standIn.getD c

/-- Which characters of a scrubbed text are blanked. -/
def blankMask (text : List Char) : List Bool :=
  List.zipWith (· || ·) (asmMask false 0 text)
    (List.zipWith (· || ·) (referenceMask false false text) (defaultMasks text))

/-- The source with what C does not have replaced in place (`to_c_dialect`). -/
def toC (source : List Char) : List Char :=
  let text := scrub source
  List.zipWith (fun c (edit : Option Char × Bool) => replaceChar c edit.1 edit.2) source
    (List.zip (keywordOverlay false [] text) (blankMask text))

end BrickLint.Dialect
