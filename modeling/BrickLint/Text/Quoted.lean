import BrickLint.Text.Printable

/-!
# Quoted names

A name that nobody knows is shown in quotes in an error: in single quotes, or in double quotes when
it holds a single quote and no double one. Backslashes and the quote itself are escaped, and so are
the characters that cannot be printed, by their code.
-/

namespace BrickLint.Text

/-- A code as hexadecimal digits, at least `width` of them. -/
def hexCode (width code : Nat) : List Char :=
  let digits := Nat.toDigits 16 code
  List.replicate (width - digits.length) '0' ++ digits

/-- A character by its code: with two, four or eight digits, as many as it needs. -/
def escapeCode (code : Nat) : List Char :=
  if code < 0x100 then '\\' :: 'x' :: hexCode 2 code
  else if code < 0x10000 then '\\' :: 'u' :: hexCode 4 code
  else '\\' :: 'U' :: hexCode 8 code

/-- A character inside quotes. -/
def escapeChar (quote c : Char) : List Char :=
  if c = quote ∨ c = '\\' then ['\\', c]
  else if c = '\n' then ['\\', 'n']
  else if c = '\r' then ['\\', 'r']
  else if c = '\t' then ['\\', 't']
  else if isPrintable c then [c]
  else escapeCode c.toNat

/-- A text in quotes. -/
def quoteName (text : List Char) : List Char :=
  let quote := if text.contains '\'' && !text.contains '"' then '"' else '\''
  quote :: text.flatMap (escapeChar quote) ++ [quote]

/-- The error about a name that is none of a kind. -/
def invalidName (kind name : String) : String :=
  String.ofList (quoteName name.toList) ++ " is not a valid " ++ kind

end BrickLint.Text
