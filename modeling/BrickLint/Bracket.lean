/-!
# Brackets

The three kinds of bracket, with their characters and names.
-/

namespace BrickLint

/-- The kinds of bracket. -/
inductive Bracket where
  /-- Round brackets. -/
  | paren
  /-- Square brackets. -/
  | square
  /-- Curly brackets. -/
  | brace
  deriving DecidableEq, Repr

/-- The opening character. -/
def Bracket.opener : Bracket → Char
  | .paren => '('
  | .square => '['
  | .brace => '{'

/-- The closing character. -/
def Bracket.closer : Bracket → Char
  | .paren => ')'
  | .square => ']'
  | .brace => '}'

/-- What the bracket is called in messages. -/
def Bracket.name : Bracket → String
  | .paren => "parenthesis"
  | .square => "bracket"
  | .brace => "brace"

/-- All kinds of bracket. -/
def Bracket.all : List Bracket :=
  [.paren, .square, .brace]

/-- The bracket that a character opens. -/
def Bracket.ofOpener? (c : Char) : Option Bracket :=
  Bracket.all.find? fun b => b.opener == c

/-- The bracket that a character closes. -/
def Bracket.ofCloser? (c : Char) : Option Bracket :=
  Bracket.all.find? fun b => b.closer == c

end BrickLint
