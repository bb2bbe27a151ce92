import BrickLint.Diagnostic.Finding

/-!
# Bracket balance

Brackets of all three kinds share one stack, so that interleaved pairs are caught. At most one
finding is reported: the first closing bracket that cannot be matched, or else the innermost
opening bracket that is never closed.
-/

namespace BrickLint

open Text

/-- A bracket that has been opened and not closed. -/
structure OpenBracket where
  /-- Its kind. -/
  bracket : Bracket
  /-- Where it was opened. -/
  opened : Position
  deriving DecidableEq, Repr

/-- Follows the brackets of the rest of a text. The open brackets are given innermost first, and the
next character stands at position `p`. -/
def balanceFrom (stack : List OpenBracket) (p : Position) : List Char → Option Finding
  | [] => stack.head?.map fun top => .ofPosition (.unclosedOpener top.bracket) top.opened 1
  | c :: cs =>
    match Bracket.ofOpener? c, Bracket.ofCloser? c with
    | some bracket, _ => balanceFrom (⟨bracket, p⟩ :: stack) (p.advance c) cs
    | none, some bracket =>
      match stack with
      | [] => some (.ofPosition (.unmatchedCloser bracket) p 1)
      | top :: rest =>
        if top.bracket = bracket then balanceFrom rest (p.advance c) cs
        else some (.ofPosition (.mismatchedCloser bracket top.bracket top.opened.line) p 1)
    | none, none => balanceFrom stack (p.advance c) cs

/-- The first bracket fault of a scrubbed text (`check_balance`). -/
def checkBalance (text : List Char) : Option Finding :=
  balanceFrom [] Position.start text

end BrickLint
