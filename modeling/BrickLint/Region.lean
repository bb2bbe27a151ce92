import BrickLint.Text.Position

/-!
# Comments, literals and code

A scan of a source text tells code from comments and literals and blanks everything that is not
code. The scrubbed text has the length of the source and keeps its line ends, so a position in one
is a position in the other. The scan also reports the literals that end without their closing
quote.
-/

namespace BrickLint

open Text

/-- The two kinds of quoted literal. -/
inductive Quote where
  /-- A string literal. -/
  | double
  /-- A character literal. -/
  | single
  deriving DecidableEq, Repr

/-- The character that opens and closes a literal. -/
def Quote.mark : Quote → Char
  | .double => '"'
  | .single => '\''

/-- The kind of literal that a character opens. -/
def Quote.ofMark? (c : Char) : Option Quote :=
  if c = '"' then some .double else if c = '\'' then some .single else none

/-- What a character of the source stands in. -/
inductive Region where
  /-- Program text. -/
  | code
  /-- A comment that runs to the end of its line. -/
  | lineComment
  /-- A comment that runs to its closing marker. -/
  | blockComment
  /-- The second character of a comment opener, after which the given comment continues. -/
  | opening (block : Bool)
  /-- The second character of the marker that closes a block comment. -/
  | closing
  /-- A literal, with the position of its opening quote. The flag is set after a backslash, when
  the next character is taken literally. -/
  | literal (quote : Quote) (escaped : Bool) (opened : Position)
  deriving DecidableEq, Repr

/-- A literal that ends without its closing quote (`UnterminatedLiteral`). -/
structure OpenLiteral where
  /-- The kind of the literal. -/
  quote : Quote
  /-- Where its opening quote stands. -/
  opened : Position
  deriving DecidableEq, Repr

/-- The literal that is open when the text or its line ends inside the region. -/
def Region.openLiteral? : Region → Option OpenLiteral
  | .literal quote _ opened => some ⟨quote, opened⟩
  | _ => none

/-- The effect of one character on the scan. -/
structure Region.Step where
  /-- The region of the next character. -/
  next : Region
  /-- Whether the character is kept; otherwise it is blanked. -/
  keep : Bool
  /-- The literal that the character cuts off. -/
  cut : Option OpenLiteral := none

/-- The effect of a line feed. It ends a line comment, and a literal unless it is escaped. -/
def Region.lineFeed : Region → Region.Step
  | .literal quote true opened => ⟨.literal quote false opened, true, none⟩
  | .literal quote false opened => ⟨.code, true, some ⟨quote, opened⟩⟩
  | .lineComment => ⟨.code, true, none⟩
  | region => ⟨region, true, none⟩

/-- The effect of a character of program text, when `next` follows it. -/
def Region.codeStep (p : Position) (c : Char) (next : Option Char) : Region.Step :=
  if c = '/' ∧ next = some '/' then ⟨.opening false, false, none⟩
  else if c = '/' ∧ next = some '*' then ⟨.opening true, false, none⟩
  else
    match Quote.ofMark? c with
    | some quote => ⟨.literal quote false p, false, none⟩
    | none => ⟨.code, true, none⟩

/-- The effect of the character `c` at position `p` when `next` follows it. Line feeds and carriage
returns are always kept, and a carriage return changes nothing else. -/
def Region.step (region : Region) (p : Position) (c : Char) (next : Option Char) : Region.Step :=
  if c = '\n' then region.lineFeed
  else if c = '\r' then ⟨region, true, none⟩
  else
    match region with
    | .code => Region.codeStep p c next
    | .lineComment => ⟨.lineComment, false, none⟩
    | .blockComment =>
      ⟨if c = '*' ∧ next = some '/' then .closing else .blockComment, false, none⟩
    | .opening block => ⟨if block then .blockComment else .lineComment, false, none⟩
    | .closing => ⟨.code, false, none⟩
    | .literal quote true opened => ⟨.literal quote false opened, false, none⟩
    | .literal quote false opened =>
      if c = '\\' then ⟨.literal quote true opened, false, none⟩
      else if c = quote.mark then ⟨.code, false, none⟩
      else ⟨.literal quote false opened, false, none⟩

/-- The outcome of scanning a text (`ScrubResult`). -/
structure Scan where
  /-- The text with everything but code and line ends blanked. -/
  text : List Char
  /-- The literals that end without their closing quote, in text order. -/
  unterminated : List OpenLiteral
  deriving DecidableEq, Repr

/-- Scans the rest of a text, of which the next character stands in `region` at position `p`. -/
def scanFrom (region : Region) (p : Position) : List Char → Scan
  | [] => ⟨[], region.openLiteral?.toList⟩
  | c :: cs =>
    let step := region.step p c cs.head?
    let rest := scanFrom step.next (p.advance c) cs
    ⟨(if step.keep then c else ' ') :: rest.text, step.cut.toList ++ rest.unterminated⟩

/-- Scans a source text (`scan`). -/
def scan (source : List Char) : Scan :=
  scanFrom .code Position.start source

/-- The source text with its comments and literals blanked (`scrub`). -/
def scrub (source : List Char) : List Char :=
  (scan source).text

end BrickLint
