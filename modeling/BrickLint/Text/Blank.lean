import BrickLint.Text.Interval

/-!
# Blank characters

White space of every script, the four information separators included. A text is stripped by
dropping its blanks at one end or at both.
-/

namespace BrickLint.Text

/-- The code points of the blank characters. -/
def blankIntervals : List (Nat × Nat) :=
  [
    (0x9, 0xd), (0x1c, 0x20), (0x85, 0x85), (0xa0, 0xa0), (0x1680, 0x1680), (0x2000, 0x200a),
    (0x2028, 0x2029), (0x202f, 0x202f), (0x205f, 0x205f), (0x3000, 0x3000)
  ]

/-- Recognises a blank character. -/
def isBlank (c : Char) : Bool :=
  inIntervals blankIntervals c.toNat

/-- Drops the longest final run of elements with a property. -/
def dropEndWhile {α : Type} (p : α → Bool) (l : List α) : List α :=
  (l.reverse.dropWhile p).reverse

/-- Drops the blanks at the start of a text. -/
def stripStart (cs : List Char) : List Char :=
  cs.dropWhile isBlank

/-- Drops the blanks at the end of a text. -/
def stripEnd (cs : List Char) : List Char :=
  dropEndWhile isBlank cs

/-- Drops the blanks at both ends of a text. -/
def strip (cs : List Char) : List Char :=
  stripEnd (stripStart cs)

end BrickLint.Text
