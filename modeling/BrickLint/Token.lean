import BrickLint.Text.Blank
import BrickLint.Text.Digit
import BrickLint.Text.Word

/-!
# Tokens of a line

A scrubbed line is cut into identifiers, numbers and punctuation. Blanks separate tokens and belong
to none. Punctuation is one character, except for the arrow of a member access.
-/

namespace BrickLint

open Text

/-- The three kinds of token. -/
inductive TokenKind where
  /-- An ASCII identifier or keyword. -/
  | ident
  /-- A run of word characters and points that starts with a decimal digit. -/
  | number
  /-- Any other character, or the arrow. -/
  | punct
  deriving DecidableEq, Repr

/-- A token and the column of its first character (`Token`). -/
structure Token where
  /-- The kind of the token. -/
  kind : TokenKind
  /-- The characters of the token. -/
  text : String
  /-- The column of the first character. -/
  column : Nat
  deriving DecidableEq, Repr

/-- Numbers continue with word characters and points. -/
def isNumberChar (c : Char) : Bool :=
  isWordChar c || c == '.'

/-- The kind and the characters of the token that starts with the nonblank character `c`. -/
def lexeme (c : Char) (rest : List Char) : TokenKind × List Char :=
  if isIdentStart c then (.ident, c :: rest.takeWhile isIdentChar)
  else if isDigitChar c then (.number, c :: rest.takeWhile isNumberChar)
  else if c = '-' ∧ rest.head? = some '>' then (.punct, ['-', '>'])
  else (.punct, [c])

/-- The tokens of the rest of a line that starts at `column`, where the next `skip` characters
belong to a token that has been produced. -/
def tokensFrom (skip column : Nat) : List Char → List Token
  | [] => []
  | c :: cs =>
    match skip with
    | remaining + 1 => tokensFrom remaining (column + 1) cs
    | 0 =>
      if isBlank c then tokensFrom 0 (column + 1) cs
      else
        let token := lexeme c cs
        ⟨token.1, String.ofList token.2, column⟩ ::
          tokensFrom (token.2.length - 1) (column + 1) cs

/-- The tokens of a line (`tokenize`). -/
def tokenize (line : List Char) : List Token :=
  tokensFrom 0 0 line

end BrickLint
