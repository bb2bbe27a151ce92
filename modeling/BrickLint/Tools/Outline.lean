import BrickLint.Tools.OutlineToken
import BrickLint.Grammar.Tree

/-!
# Outline of a program

A coarse parser for programs that are known to be correct. It looks at the tokens outside all
brackets and finds the definitions of functions: a pair of braces is a body when modifiers, a type,
a name and a parameter list stand before it. The parameters may also be declared between the list
and the body. A word has a meaning of its own only where a program may use it so; anywhere else it
is a name like any other. Directives end an item, and the items inside a group of directives are
found as well.

The analysis takes the parser as a parameter, and its results hold for every one. The one given here
is to run it with on programs that are correct.
-/

namespace BrickLint.Grammar

open Text

/-- The name of a function, its parameter list and the tokens behind it. -/
structure FunctionHead where
  /-- The name. -/
  name : OutlineToken
  /-- The parenthesis that opens the parameter list. -/
  parameters : OutlineToken
  /-- The tokens behind the parameter list. -/
  tail : List OutlineToken

/-- What stands behind the colon of a label; `choices` question marks have not met their colon. -/
def afterColon (choices : Nat) : List OutlineToken → List OutlineToken
  | [] => []
  | token :: rest =>
    if token.isChar '?' then afterColon (choices + 1) rest
    else if !token.isChar ':' then afterColon choices rest
    else
      match choices with
      | 0 => rest
      | remaining + 1 => afterColon remaining rest

/-- Whether an item starts with a label. -/
def isLabelled (item : List OutlineToken) : Bool :=
  item.head?.any (·.isOneOf labelWords)

/-- Drops the labels before an item, at most `count` of them. -/
def dropLabels (count : Nat) (item : List OutlineToken) : List OutlineToken :=
  match count with
  | 0 => item
  | remaining + 1 =>
    if isLabelled item then dropLabels remaining (afterColon 0 item) else item

/-- Whether an item belongs to another language. -/
def isForeign : List OutlineToken → Bool
  | word :: next :: _ => word.isOneOf ["extern"] && next.isChar '"'
  | _ => false

/-- Drops the words that say something about a declaration other than its type. -/
def dropModifiers : List OutlineToken → List OutlineToken
  | token :: next :: rest =>
    if token.isOneOf attributeWords then dropModifiers rest
    else if token.isOneOf (storageWords ++ qualifierWords) || token.opensAttribute then
      dropModifiers (next :: rest)
    else token :: next :: rest
  | tokens => tokens

/-- Drops a word that says how a function is called. -/
def dropConvention : List OutlineToken → List OutlineToken
  | [] => []
  | token :: rest => if token.isOneOf conventionWords then rest else token :: rest

/-- Drops the words that give the size of a type. -/
def dropSizes (tokens : List OutlineToken) : List OutlineToken :=
  tokens.dropWhile (·.isOneOf sizeWords)

/-- Drops a word and the braces behind it, one of which has to be there. -/
def dropTagged? : List OutlineToken → Option (List OutlineToken)
  | [] => none
  | token :: rest =>
    if token.isChar '{' then some rest
    else if !token.isWord then none
    else
      match rest with
      | colon :: type :: behind =>
        if colon.isChar ':' then
          some (if behind.head?.any (·.isChar '{') then behind.tail else behind)
        else if colon.isChar '{' then some (type :: behind)
        else some rest
      | _ => some rest

/-- Drops the rest of a type behind a word that gives its size. A word that starts no declarator is
a part of the type. -/
def dropSized (tokens : List OutlineToken) : List OutlineToken :=
  match (dropSizes tokens).dropWhile (·.isOneOf qualifierWords) with
  | word :: next :: rest =>
    if word.isOneOf typeWords then dropSizes (next :: rest)
    else if word.isWord && !word.isOneOf (storageWords ++ attributeWords ++ conventionWords) &&
        (next.isWord || next.isChar '*' || next.opensAttribute) then dropSizes (next :: rest)
    else word :: next :: rest
  | tokens => tokens

/-- Drops the type at the start of a declaration. A name with parentheses is a type too. -/
def dropType? : List OutlineToken → Option (List OutlineToken)
  | [] => none
  | word :: rest =>
    if !word.isWord then none
    else if word.isOneOf ["enum"] then dropTagged? rest
    else if word.isOneOf memberedWords then dropTagged? (dropModifiers rest)
    else if word.isOneOf sizeWords then some (dropSized rest)
    else
      match rest with
      | [] => some []
      | next :: behind =>
        if next.isChar '(' && !word.isOneOf typeWords then some behind
        else some (dropSizes (next :: behind))

/-- Drops what makes a pointer of the name behind it. -/
def dropPointers : List OutlineToken → List OutlineToken
  | token :: next :: rest =>
    if token.isOneOf ["__based"] && next.isChar '(' then dropPointers rest
    else if token.isChar '*' || token.isOneOf (pointerWords ++ qualifierWords) then
      dropPointers (next :: rest)
    else token :: next :: rest
  | tokens => tokens

/-- The head of the function that an item without labels defines or declares. -/
def functionHead? (item : List OutlineToken) : Option FunctionHead :=
  if isForeign item || item.head?.any (·.isOneOf ["typedef"]) then none
  else
    match dropType? (dropModifiers (dropConvention item)) with
    | none => none
    | some declarator =>
      match dropPointers (dropConvention (dropModifiers declarator)) with
      | name :: paren :: tail =>
        if name.isWord && paren.isChar '(' then some ⟨name, paren, tail⟩ else none
      | _ => none

/-- Whether the tokens behind a parameter list leave the function its name. Parentheses that follow
no word are a second parameter list, and a name with an attribute behind the list is not plain. The
flag tells that a word has just been read. -/
def isPlainTail (afterWord : Bool) : List OutlineToken → Bool
  | [] => true
  | token :: rest =>
    if token.opensAttribute then false
    else if token.isChar '(' then afterWord && isPlainTail false rest
    else isPlainTail token.isWord rest

/-- The name of the function that an item in front of a body defines. -/
def definedName? (item : List OutlineToken) : Option OutlineToken :=
  ((functionHead? item).filter fun head => isPlainTail false head.tail).map (·.name)

/-- Whether tokens declare something: a type that is not a name with parentheses, and a name. -/
def isDeclaration (tokens : List OutlineToken) : Bool :=
  match dropModifiers tokens with
  | word :: next :: rest =>
    (!next.isChar '(' || word.isOneOf (typeWords ++ sizeWords)) &&
      (dropType? (word :: next :: rest)).any fun declarator =>
        ((dropModifiers declarator).head?.any fun token =>
          token.isWord || token.isChar '*' || token.isChar '(')
  | _ => false

/-- The head of the function whose parameters are declared from this item on. -/
def openHead? (item : List OutlineToken) : Option FunctionHead :=
  (functionHead? item).filter fun head => head.parameters.listsNames && isDeclaration head.tail

/-- Whether what follows a parameter list can be read as a part of the declarator, so that no body
is needed. -/
def closesItself (tail : List OutlineToken) : Bool :=
  let first := tail.takeWhile fun token => !(token.isChar ',' || token.isChar '=')
  isPlainTail false first && first.all fun token =>
    token.isWord || token.isChar '(' || token.isChar '['

/-- The name of the function whose parameters are declared by the given items, latest first, and
whose body follows them. Behind a label an item that needs no body takes none. -/
def bodyName? (labelled : Bool) : List (List OutlineToken) → Option OutlineToken
  | [] => none
  | item :: earlier =>
    match openHead? item with
    | some head => if labelled && closesItself head.tail then none else some head.name
    | none => if isDeclaration item then bodyName? labelled earlier else none

/-- Drops one pair of an attribute word and its parentheses, given latest first. -/
def dropAttribute : List OutlineToken → List OutlineToken
  | paren :: word :: rest =>
    if paren.isChar '(' && word.isOneOf attributeWords then rest else paren :: word :: rest
  | tokens => tokens

/-- Whether braces behind the tokens of an item, latest first, hold the members of a type. -/
def holdsMembers (item : List OutlineToken) : Bool :=
  let announced := fun tokens : List OutlineToken =>
    (dropAttribute (dropAttribute tokens)).head?.any (·.isOneOf memberedWords)
  let tagged :=
    match item with
    | tag :: rest => announced item || (tag.isWord && announced rest)
    | [] => false
  let sized :=
    match item with
    | type :: colon :: tag :: word :: _ =>
      type.isWord && colon.isChar ':' && tag.isWord && word.isOneOf ["enum"]
    | _ => false
  (tagged || sized) && (functionHead? item.reverse).all (·.parameters.listsNames)

/-- The names of the functions that are defined by the rest of a program. The flag tells that a
label stands before the current item, with no definition between. The items since the last braces
are given latest first, and so are the tokens of the current item. -/
def outlineFunctions (labelled : Bool) (items : List (List OutlineToken))
    (item : List OutlineToken) : List OutlineToken → List OutlineToken
  | [] => []
  | token :: rest =>
    if token.isChar '#' then outlineFunctions false [] [] rest
    else if !token.isChar ';' && (!token.isChar '{' || item.any (·.isChar '=') ||
        holdsMembers item) then
      outlineFunctions labelled items (token :: item) rest
    else
      let whole := item.reverse
      let labelled := labelled || isLabelled whole
      let plain := dropLabels whole.length whole
      if token.isChar ';' then outlineFunctions labelled (plain :: items) [] rest
      else if whole.isEmpty then
        match bodyName? labelled items with
        | some name => name :: outlineFunctions false [] [] rest
        | none => outlineFunctions labelled [] [] rest
      else if plain.head?.all (·.isOneOf statementWords) then outlineFunctions labelled [] [] rest
      else (definedName? plain).toList ++ outlineFunctions false [] [] rest

/-- The node of a type that covers a token. -/
def outlineNode (type : String) (field : Option String) (token : OutlineToken)
    (children : List Node) : Node :=
  .mk
    { type := type
      startByte := token.startByte
      endByte := token.endByte
      startRow := 0
      startColumn := 0
      endRow := 0
      field := field }
    children

/-- The node of the definition of a function with the given name. -/
def functionNode (name : OutlineToken) : Node :=
  outlineNode "function_definition" none name
    [outlineNode "function_declarator" (some "declarator") name
      [outlineNode "identifier" (some "declarator") name []]]

/-- The tree of a correct program, of which only the definitions of functions are shown. -/
def parseOutline (text : List Char) : Node :=
  let whole : OutlineToken := ⟨[], 0, byteLength text, false⟩
  let functions := outlineFunctions false [] [] (OutlineToken.ofText text)
  outlineNode "program" none whole (functions.map functionNode)

end BrickLint.Grammar
