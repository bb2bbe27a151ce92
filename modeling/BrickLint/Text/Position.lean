/-!
# Positions

A position names a character by its line and column, both counted from zero. Lines end at line
feeds and at nothing else; columns count characters.
-/

namespace BrickLint.Text

/-- A zero-based line and column. -/
structure Position where
  /-- How many line feeds stand before the character. -/
  line : Nat
  /-- How many characters stand between the last line feed and the character. -/
  column : Nat
  deriving DecidableEq, Repr

/-- The position of the first character. -/
def Position.start : Position :=
  ⟨0, 0⟩

/-- The position of the character that follows `c`. -/
def Position.advance (p : Position) (c : Char) : Position :=
  if c = '\n' then ⟨p.line + 1, 0⟩ else ⟨p.line, p.column + 1⟩

/-- The position of the character at an offset (`position_from_offset`); an offset past the end
stands for the end. -/
def positionAt (text : List Char) (offset : Nat) : Position :=
  (text.take offset).foldl Position.advance Position.start

end BrickLint.Text
