import BrickLint.Tools.Expand.Lexeme

/-!
# Definitions

A definition gives a name a replacement. A definition with parameters replaces calls: its body is
prepared once, so that each place of a parameter says how the argument is put there.
-/

namespace BrickLint.Expand

/-- A part of the body of a definition. -/
inductive BodyPart where
  /-- A lexeme that is kept. -/
  | plain (lexeme : Lexeme)
  /-- An argument as it was written, for a place next to a joining operator. -/
  | raw (index : Nat)
  /-- An argument after its own expansion. -/
  | expanded (index : Nat)
  /-- An argument as a string literal. -/
  | quoted (index : Nat) (lexeme : Lexeme)
  /-- A comma that goes away when the last argument is empty. -/
  | optionalComma (lexeme : Lexeme)
  deriving DecidableEq, Repr

/-- The replacement of a name. -/
structure Definition where
  /-- The defined name. -/
  name : String
  /-- The names of the parameters; a definition without a parameter list has none. -/
  parameters : Option (List String)
  /-- Whether the last parameter takes all remaining arguments. -/
  variadic : Bool
  /-- The replacement. -/
  body : List BodyPart
  deriving DecidableEq, Repr

/-- The definitions that hold at a place of the text. -/
abbrev Definitions := List Definition

/-- The definition of a name. -/
def Definitions.find? (defs : Definitions) (name : String) : Option Definition :=
  List.find? (fun d => d.name == name) defs

/-- Whether a name is defined. -/
def Definitions.contains (defs : Definitions) (name : String) : Bool :=
  List.any defs fun d => d.name == name

/-- Forgets the definition of a name. -/
def Definitions.erase (defs : Definitions) (name : String) : Definitions :=
  List.filter (fun d => d.name != name) defs

/-- Adds a definition, in place of an earlier one. -/
def Definitions.put (defs : Definitions) (d : Definition) : Definitions :=
  d :: defs.erase d.name

/-- The lexemes between a parenthesis and its partner, and what follows it. The opening parenthesis
has been read, and `depth` further ones are open. -/
def untilClosed? (depth : Nat) : List Lexeme → Option (List Lexeme × List Lexeme)
  | [] => none
  | l :: rest =>
    if l.hasText ")" ∧ depth = 0 then some ([], rest)
    else
      let depth := if l.hasText "(" then depth + 1 else if l.hasText ")" then depth - 1 else depth
      (untilClosed? depth rest).map fun (inside, after) => (l :: inside, after)

/-- Puts a lexeme in front of the first list. -/
def consLexeme (l : Lexeme) : List (List Lexeme) → List (List Lexeme)
  | [] => [[l]]
  | first :: rest => (l :: first) :: rest

/-- Cuts the lexemes between two parentheses at the commas outside inner parentheses. -/
def cutAtCommas (depth : Nat) : List Lexeme → List (List Lexeme)
  | [] => [[]]
  | l :: rest =>
    if l.hasText "," ∧ depth = 0 then [] :: cutAtCommas depth rest
    else
      let depth := if l.hasText "(" then depth + 1 else if l.hasText ")" then depth - 1 else depth
      consLexeme l (cutAtCommas depth rest)

/-- The lexemes behind the first `count` commas outside inner parentheses. -/
def afterCommas (count depth : Nat) : List Lexeme → List Lexeme
  | [] => []
  | l :: rest =>
    match count with
    | 0 => l :: rest
    | remaining + 1 =>
      if l.hasText "," ∧ depth = 0 then afterCommas remaining depth rest
      else
        let depth :=
          if l.hasText "(" then depth + 1 else if l.hasText ")" then depth - 1 else depth
        afterCommas (remaining + 1) depth rest

/-- A parameter list. -/
structure Parameters where
  /-- The names. -/
  names : List String
  /-- Whether the last one takes all remaining arguments. -/
  variadic : Bool

/-- Why a definition cannot be added. -/
inductive DefinitionFault where
  /-- The definition is passed over. -/
  | ignored
  /-- The text cannot be expanded at all. -/
  | fatal
  deriving DecidableEq, Repr

/-- Reads the parameters of a definition. Three points stand for all remaining arguments, with or
without a name before them, and nothing may follow them. A parameter list with anything but names
is passed over, and one with a gap between two commas cannot be read at all. -/
def readParameters (lone : Bool) : List (List Lexeme) → Except DefinitionFault Parameters
  | [] => .ok ⟨[], false⟩
  | parameter :: rest =>
    let text := lexemesText parameter
    let isName := parameter.head?.any (·.kind == .ident)
    if text = "...".toList then
      if rest.isEmpty then .ok ⟨["__VA_ARGS__"], true⟩ else .error .ignored
    else if "...".toList.isSuffixOf text && isName then
      if rest.isEmpty then .ok ⟨[String.ofList (parameter.head?.elim [] (·.text))], true⟩
      else .error .ignored
    else if parameter.isEmpty then if lone then .ok ⟨[], false⟩ else .error .fatal
    else if parameter.length = 1 ∧ isName then do
      let others ← readParameters lone rest
      return ⟨String.ofList text :: others.names, others.variadic⟩
    else .error .ignored

/-- Drops one blank before and one behind each joining operator. -/
def tightenPastes : List Lexeme → List Lexeme
  | l :: next :: rest =>
    if l.isSpace && next.isPaste then tightenPastes (next :: rest)
    else if l.isPaste && next.isSpace then l :: tightenPastes rest
    else l :: tightenPastes (next :: rest)
  | lexemes => lexemes

/-- The lexeme of a part that has been prepared, if it is kept. -/
def BodyPart.kept? : BodyPart → Option Lexeme
  | .plain lexeme => some lexeme
  | .optionalComma lexeme => some lexeme
  | _ => none

/-- Whether the last prepared part is a kept lexeme with a property; `done` lists the prepared
parts, latest first. -/
def lastKept (p : Lexeme → Bool) (done : List BodyPart) : Bool :=
  (done.head?.bind BodyPart.kept?).any p

/-- The prepared parts before a quoting operator, if one stands before the current place with only
blanks between. -/
def beforeQuoting? (done : List BodyPart) : Option (List BodyPart) :=
  match done.dropWhile fun part => part.kept?.any (·.isSpace) with
  | part :: rest => if part.kept?.any (·.hasText "#") then some rest else none
  | [] => none

/-- Turns a comma at the end of the prepared parts into one that may go away. -/
def relaxComma : List BodyPart → List BodyPart
  | .plain lexeme :: rest =>
    if lexeme.hasText "," then .optionalComma lexeme :: rest else .plain lexeme :: rest
  | done => done

/-- Prepares the body of a definition with parameters; `done` lists the prepared parts, latest
first. -/
def prepareBody (parameters : List String) (variadic : Bool) (done : List BodyPart) :
    List Lexeme → List BodyPart
  | [] => done.reverse
  | l :: rest =>
    let index? := if l.kind = .ident then parameters.idxOf? (String.ofList l.text) else none
    match index? with
    | some index =>
      match beforeQuoting? done with
      | some earlier => prepareBody parameters variadic (.quoted index l :: earlier) rest
      | none =>
        let part :=
          if lastKept (·.hasText "##") done || rest.head?.any (·.hasText "##") then
            BodyPart.raw index
          else .expanded index
        prepareBody parameters variadic (part :: done) rest
    | none =>
      let absorbs := variadic && l.hasText "##" && rest.head?.any fun next =>
        next.kind == .ident && parameters.getLast? == some (String.ofList next.text)
      prepareBody parameters variadic
        (.plain l :: if absorbs then relaxComma done else done) rest

/-- The definition without parameters. -/
def Definition.ofObject (name : String) (body : List Lexeme) : Definition :=
  ⟨name, none, false, body.map .plain⟩

/-- Reads a definition: a name, directly followed by a parameter list if it has one, and its
replacement. A parameter list that is not closed counts as part of the replacement. -/
def readDefinition : List Lexeme → Except DefinitionFault Definition
  | [] => .error .fatal
  | [name] => .ok (.ofObject (String.ofList name.text) [])
  | name :: next :: rest =>
    if next.isSpace then .ok (.ofObject (String.ofList name.text) (stripLexemes rest))
    else if next.hasText "(" then do
      let (inside?, rest) := match untilClosed? 0 rest with
        | some (inside, after) => (some inside, after)
        | none => (none, next :: rest)
      let arguments := inside?.elim [] fun inside => (cutAtCommas 0 inside).map stripLexemes
      let parameters ← readParameters (arguments.length == 1) arguments
      let body := tightenPastes (stripLexemes rest)
      return ⟨String.ofList name.text, some parameters.names, parameters.variadic,
        prepareBody parameters.names parameters.variadic [] body⟩
    else .error .ignored

end BrickLint.Expand
