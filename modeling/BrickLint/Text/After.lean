import BrickLint.Text.Blank
import BrickLint.Text.Word

/-!
# What follows

A line is recognised piece by piece. Each function here passes over one piece at the start of a text
and gives the rest, if the piece is there. The rest is always a suffix of the text.
-/

namespace BrickLint.Text

/-- The rest of a text after one character. -/
def afterChar? (c : Char) : List Char → Option (List Char)
  | [] => none
  | d :: cs => if d = c then some cs else none

/-- The rest of a text after everything up to the first `c`, and `c` itself. -/
def afterFirst? (c : Char) (cs : List Char) : Option (List Char) :=
  afterChar? c (cs.dropWhile (· != c))

/-- The rest of a text after one of several words. The words are tried in order. -/
def afterWord? (words : List String) (cs : List Char) : Option (List Char) :=
  words.findSome? fun word => word.toList.isPrefixOf? cs

/-- The rest of a text after a nonempty run of blanks. -/
def afterBlanks? (cs : List Char) : Option (List Char) :=
  if cs.head?.any isBlank then some (stripStart cs) else none

/-- The rest of a text after a nonempty run of word characters. -/
def afterName? (cs : List Char) : Option (List Char) :=
  if cs.head?.any isWordChar then some (cs.dropWhile isWordChar) else none

/-- The rest of a text after one of several words and a nonempty run of blanks. -/
def afterSeparateWord? (words : List String) (cs : List Char) : Option (List Char) :=
  (afterWord? words cs).bind afterBlanks?

/-- Whether the word before a text has ended. -/
def atWordEnd (cs : List Char) : Bool :=
  !cs.head?.any isWordChar

/-- A line ends at its end and before a line feed that ends it. -/
def isLineEnd (cs : List Char) : Bool :=
  cs.isEmpty || cs == ['\n']

/-- The identifier at the start of a text, and the rest of the text. -/
def splitIdent? (cs : List Char) : Option (List Char × List Char) :=
  if cs.head?.any isIdentStart then some (cs.takeWhile isIdentChar, cs.dropWhile isIdentChar)
  else none

end BrickLint.Text
