import BrickLint.Text.Blank
import BrickLint.Text.Utf8

/-!
# Tokens of an outline

The outline of a program needs the tokens that stand outside all brackets. Comments are passed over,
a directive is shown by its hash, a literal by its opening quote, and a pair of brackets by the
opening one.
-/

namespace BrickLint.Grammar

open Text

/-- A token of an outline: a word, a number, or another mark. -/
structure OutlineToken where
  /-- The characters that show the token. -/
  text : List Char
  /-- The offset of its first byte. -/
  startByte : Nat
  /-- The offset just after its last byte. -/
  endByte : Nat
  /-- Whether it opens parentheses that hold nothing but names with commas between them. -/
  listsNames : Bool := false

/-- The number of bytes of a text. -/
def byteLength (cs : List Char) : Nat :=
  (encodeUtf8 cs).length

/-- Blanks of a program: white space, and the mark of the byte order. -/
def isOutlineBlank (c : Char) : Bool :=
  isBlank c || c == '\ufeff'

/-- Characters of a name. Outside literals and comments all characters beyond ASCII are. -/
def isNameChar (c : Char) : Bool :=
  c.isAlphanum || c == '_' || c == '$' || (0x7f < c.toNat && !isOutlineBlank c)

/-- The length of a joined line break at the start of a text: a backslash and the break. -/
def joinLength : List Char → Nat
  | '\\' :: '\n' :: _ => 2
  | '\\' :: '\r' :: '\n' :: _ => 3
  | _ => 0

/-- The length of the rest of a comment through its closing marker, `n` characters being counted. -/
def blockLength (n : Nat) : List Char → Nat
  | '*' :: '/' :: _ => n + 2
  | _ :: rest => blockLength (n + 1) rest
  | [] => n

/-- The length of the rest of a comment to the end of its row, `n` characters being counted. A
backslash before the end carries it on to the next row. -/
def rowCommentLength (n : Nat) : List Char → Nat
  | '\\' :: '\n' :: rest => rowCommentLength (n + 2) rest
  | '\\' :: '\r' :: '\n' :: rest => rowCommentLength (n + 3) rest
  | '\n' :: _ => n
  | _ :: rest => rowCommentLength (n + 1) rest
  | [] => n

/-- The length of the rest of a literal through its closing mark, `n` characters being counted. A
backslash takes the next character with it. -/
def literalLength (mark : Char) (n : Nat) : List Char → Nat
  | '\\' :: _ :: rest => literalLength mark (n + 2) rest
  | c :: rest => if c = mark ∨ c = '\n' then n + 1 else literalLength mark (n + 1) rest
  | [] => n

/-- The length of a name at the start of a text, `n` characters being counted. A character of a name
may also be written as a backslash, a letter and the digits of its code. -/
def nameLength (n : Nat) : List Char → Nat
  | '\\' :: c :: rest => if c = 'u' ∨ c = 'U' then nameLength (n + 2) rest else n
  | c :: rest => if isNameChar c then nameLength (n + 1) rest else n
  | [] => n

/-- The length of a number at the start of a text, `n` characters being counted. An apostrophe may
stand between two digits. -/
def numberLength (n : Nat) : List Char → Nat
  | '\'' :: c :: rest => if c.isAlphanum then numberLength (n + 2) rest else n
  | c :: rest => if isNameChar c || c == '.' then numberLength (n + 1) rest else n
  | [] => n

/-- The directives that end with their own word. -/
def bareDirectives : List String :=
  ["else", "endif"]

/-- The directives that end with a name. -/
def namedDirectives : List String :=
  ["ifdef", "ifndef", "elifdef", "elifndef"]

/-- The directives whose argument is read like code and not like a text. -/
def codeDirectives : List String :=
  ["if", "elif", "include"]

/-- The length of the rest of a directive to the end of its row, where the next `skip` characters
belong to something that has been read, and `n` characters are counted. Comments and joined line
breaks carry the directive on. In a text that has started, a slash takes the next character with it,
even the end of the row; before a text a double slash starts a comment. -/
def argumentLength (isText started : Bool) (skip n : Nat) : List Char → Nat
  | [] => n
  | c :: cs =>
    match skip with
    | remaining + 1 => argumentLength isText started remaining (n + 1) cs
    | 0 =>
      if c = '\n' then n
      else if 0 < joinLength (c :: cs) then
        argumentLength isText started (joinLength (c :: cs) - 1) (n + 1) cs
      else if c = '/' ∧ cs.head? = some '*' then
        argumentLength isText started (blockLength 1 cs.tail) (n + 1) cs
      else if c = '/' ∧ cs.head? = some '/' ∧ !started then rowCommentLength n (c :: cs)
      else
        argumentLength isText (started || (isText && !isOutlineBlank c)) (if c = '/' then 1 else 0)
          (n + 1) cs

/-- The length of blanks and a name at the start of a text. -/
def spacedNameLength (cs : List Char) : Nat :=
  let gap := (cs.takeWhile fun c => c == ' ' || c == '\t').length
  gap + nameLength 0 (cs.drop gap)

/-- The length of a directive, given the text behind its hash. -/
def directiveLength (cs : List Char) : Nat :=
  let head := spacedNameLength cs
  let word := String.ofList (strip (cs.take head))
  let name := spacedNameLength (cs.drop head)
  if bareDirectives.contains word then head + 1
  else if namedDirectives.contains word then head + name + 1
  else
    let lead := if word = "define" then head + name else head
    lead + 1 + argumentLength (!codeDirectives.contains word) false 0 0 (cs.drop lead)

/-- Words that may stand directly before the opening quote of a literal. -/
def literalMarks : List String :=
  ["L", "u", "U", "u8"]

/-- The characters that show the token at the start of a text, unless it is passed over, and its
length. -/
def outlineTokenShape (c : Char) (cs : List Char) : Option (List Char) × Nat :=
  let startsWith := fun d : Char => cs.head? == some d
  if isOutlineBlank c then (none, 1)
  else if 0 < joinLength (c :: cs) then (none, joinLength (c :: cs))
  else if c = '/' ∧ startsWith '/' then (none, rowCommentLength 1 cs)
  else if c = '/' ∧ startsWith '*' then (none, blockLength 2 cs.tail)
  else if c = '"' ∨ c = '\'' then (some [c], literalLength c 1 cs)
  else if c = '#' then (some [c], directiveLength cs)
  else if c.isDigit then (some [c], numberLength 1 cs)
  else if c = '[' ∧ startsWith '[' then (some [c, c], 2)
  else
    let length := nameLength 0 (c :: cs)
    let word := (c :: cs).take length
    let next := ((c :: cs).drop length).head?
    if length = 0 then (some [c], 1)
    else if literalMarks.contains (String.ofList word) ∧ (next = some '"' ∨ next = some '\'') then
      (none, length)
    else (some word, length)

/-- The tokens of a text. The tokens that are done are listed latest first, the next `skip`
characters belong to the last of them or are passed over, and the next character has the offset
`byte`. -/
def outlineTokens (done : List OutlineToken) (skip byte : Nat) : List Char → List OutlineToken
  | [] => done.reverse
  | c :: cs =>
    let next := byte + byteLength [c]
    match skip with
    | remaining + 1 => outlineTokens done remaining next cs
    | 0 =>
      match outlineTokenShape c cs with
      | (none, length) => outlineTokens done (length - 1) next cs
      | (some text, length) =>
        let token : OutlineToken :=
          ⟨text, byte, byte + byteLength ((c :: cs).take length), false⟩
        outlineTokens (token :: done) (length - 1) next cs

/-- Words that say how something is stored. -/
def storageWords : List String :=
  ["extern", "static", "auto", "register", "inline", "__inline", "__inline__", "__forceinline",
    "thread_local", "__thread"]

/-- Words that qualify a type. -/
def qualifierWords : List String :=
  ["const", "constexpr", "volatile", "restrict", "__restrict__", "__extension__", "_Atomic",
    "_Noreturn", "noreturn", "_Nonnull"]

/-- Words that say how a function is called. -/
def conventionWords : List String :=
  ["__cdecl", "__clrcall", "__stdcall", "__fastcall", "__thiscall", "__vectorcall"]

/-- Words that say how a pointer is kept. -/
def pointerWords : List String :=
  ["__restrict", "__uptr", "__sptr", "_unaligned", "__unaligned"]

/-- Words that announce a property in parentheses. -/
def attributeWords : List String :=
  ["__attribute__", "__attribute", "__declspec", "_Alignas", "alignas"]

/-- Words that announce a type with members. -/
def memberedWords : List String :=
  ["struct", "union", "enum"]

/-- Words that give the size or the sign of a type. -/
def sizeWords : List String :=
  ["signed", "unsigned", "long", "short"]

/-- Names of types. -/
def typeWords : List String :=
  ["bool", "char", "int", "float", "double", "void", "size_t", "ssize_t", "ptrdiff_t", "intptr_t",
    "uintptr_t", "charptr_t", "nullptr_t", "max_align_t", "int8_t", "int16_t", "int32_t", "int64_t",
    "uint8_t", "uint16_t", "uint32_t", "uint64_t", "char8_t", "char16_t", "char32_t", "char64_t"]

/-- Words that start a statement with braces of its own. -/
def statementWords : List String :=
  ["if", "else", "switch", "while", "for", "do"]

/-- Words that start a label. -/
def labelWords : List String :=
  ["case", "default"]

namespace OutlineToken

/-- Whether a token is the given character. -/
def isChar (token : OutlineToken) (c : Char) : Bool :=
  token.text == [c]

/-- Whether a token opens an attribute in double brackets. -/
def opensAttribute (token : OutlineToken) : Bool :=
  token.text == ['[', '[']

/-- Whether a token is one of several words. -/
def isOneOf (token : OutlineToken) (words : List String) : Bool :=
  words.contains (String.ofList token.text)

/-- Whether a token is a word. -/
def isWord (token : OutlineToken) : Bool :=
  token.text.head?.any fun c => c == '\\' || (isNameChar c && !c.isDigit)

/-- Whether a token can be nothing but the name of a parameter. -/
def isParameterName (token : OutlineToken) : Bool :=
  token.isWord && !token.isOneOf
    (storageWords ++ qualifierWords ++ attributeWords ++ memberedWords ++ sizeWords ++ typeWords)

/-- How many pairs of brackets a token opens. -/
def openedBrackets (token : OutlineToken) : Nat :=
  if token.opensAttribute then 2
  else if token.isChar '(' || token.isChar '[' || token.isChar '{' then 1
  else 0

/-- Whether a token closes a pair of brackets. -/
def closesBracket (token : OutlineToken) : Bool :=
  token.isChar ')' || token.isChar ']' || token.isChar '}'

end OutlineToken

/-- Whether a closing parenthesis follows nothing but names with commas between them. Points stand
for further names. The flag tells that a name has just been read. -/
def closesNames (named : Bool) : List OutlineToken → Bool
  | [] => false
  | token :: rest =>
    if token.isChar ')' then true
    else if token.isParameterName then !named && closesNames true rest
    else (token.isChar ',' || token.isChar '.') && closesNames false rest

/-- The tokens outside all brackets and the brackets that open there. The tokens that are done are
listed latest first, and `depth` brackets are open. -/
def outermostTokens (done : List OutlineToken) (depth : Nat) :
    List OutlineToken → List OutlineToken
  | [] => done.reverse
  | token :: rest =>
    if token.closesBracket then outermostTokens done (depth - 1) rest
    else if depth = 0 then
      let listsNames := token.isChar '(' && closesNames false rest
      outermostTokens ({ token with listsNames := listsNames } :: done) token.openedBrackets rest
    else outermostTokens done (depth + token.openedBrackets) rest

/-- The outermost tokens of a text. -/
def OutlineToken.ofText (text : List Char) : List OutlineToken :=
  outermostTokens [] 0 (outlineTokens [] 0 0 text)

end BrickLint.Grammar
