import BrickLint.Text.Blank

/-!
# Lines of a text

Three notions of a line are in use. *Rows* end at line feeds only, and every position of a
diagnostic counts them. *Code rows* are rows without the carriage return of a two-character line
end. *Visual lines* end at every character that an editor shows as a line break, a carriage return
and line feed together counting once.
-/

namespace BrickLint.Text

/-- The pieces of a text between its line feeds. -/
def rows (text : List Char) : List (List Char) :=
  text.splitOn '\n'

/-- Drops one carriage return at the end of a row. -/
def dropReturn (row : List Char) : List Char :=
  if row.getLast? = some '\r' then row.dropLast else row

/-- Drops one carriage return at the end of every row that a line feed ends. -/
def dropReturns : List (List Char) → List (List Char)
  | [] => []
  | [last] => [last]
  | row :: next :: rest => dropReturn row :: dropReturns (next :: rest)

/-- The pieces of a text between its line ends, a line end being a line feed with an optional
carriage return before it. -/
def codeRows (text : List Char) : List (List Char) :=
  dropReturns (rows text)

/-- Whether a line ends in a backslash, not counting blanks. -/
def endsInBackslash (line : List Char) : Bool :=
  (stripEnd line).getLast? == some '\\'

/-- The characters that end a visual line. -/
def isLineBreak (c : Char) : Bool :=
  let code := c.toNat
  (0xa ≤ code && code ≤ 0xd) || (0x1c ≤ code && code ≤ 0x1e) || code == 0x85 ||
    code == 0x2028 || code == 0x2029

/-- Puts a character in front of the first line. -/
def consToFirst (c : Char) : List (List Char) → List (List Char)
  | [] => [[c]]
  | line :: rest => (c :: line) :: rest

/-- The visual lines of a text, without their line breaks. A final line break starts no line. -/
def visualLines : List Char → List (List Char)
  | [] => []
  | c :: cs =>
    if c = '\r' ∧ cs.head? = some '\n' then visualLines cs
    else if isLineBreak c then [] :: visualLines cs
    else consToFirst c (visualLines cs)

/-- Whether a line that keeps its line end stops at `c`, when `next` follows: at a line feed, and
at a carriage return that no line feed follows. -/
def endsLine (c : Char) (next : Option Char) : Bool :=
  c == '\n' || (c == '\r' && next != some '\n')

/-- Collects the characters of the next `limit` lines, in reverse, in front of `seen`. -/
def collectLines (limit : Nat) (seen : List Char) : List Char → List Char
  | [] => seen
  | c :: cs =>
    match limit with
    | 0 => seen
    | remaining + 1 =>
      collectLines (if endsLine c cs.head? then remaining else remaining + 1) (c :: seen) cs

/-- The text through the end of its line number `limit`, or all of it when it has no more lines.
Lines end at a line feed, at a carriage return, or at both together. -/
def takeLines (limit : Nat) (text : List Char) : List Char :=
  (collectLines limit [] text).reverse

end BrickLint.Text
