import BrickLint.Double
import BrickLint.Tools.Expand.Replacement
import BrickLint.Tools.CharName

/-!
# Conditions

The condition of a conditional directive is an expression over 64-bit whole numbers. Names that are
not defined count as zero, and a condition that cannot be read or computed is false. Operands that
the result does not depend on may be faulty without harm. The reader looks one lexeme ahead, and
starts over behind an empty character literal.
-/

namespace BrickLint.Expand

open Text

/-- A 64-bit whole number. -/
structure Word where
  /-- The value, between the bounds of its kind. -/
  value : Int
  /-- Whether it is unsigned. -/
  unsigned : Bool
  deriving DecidableEq, Repr

/-- The number of 64-bit patterns. -/
def wordCount : Int :=
  0x10000000000000000

/-- The least number that is too large for a signed one. -/
def signedBound : Int :=
  0x8000000000000000

/-- The 64-bit number of a kind that a value wraps around to. -/
def Word.wrap (value : Int) (unsigned : Bool) : Word :=
  if unsigned then ⟨value.emod wordCount, true⟩
  else ⟨(value + signedBound).emod wordCount - signedBound, false⟩

/-- A truth value as a number, which may be unsigned. -/
def Word.ofBool (b : Bool) (unsigned : Bool := false) : Word :=
  ⟨if b then 1 else 0, unsigned⟩

/-- Whether a number counts as true. -/
def Word.isTrue (w : Word) : Bool :=
  w.value != 0

/-- Operators with two operands. -/
inductive BinaryOp where
  /-- The second operand. -/
  | sequence
  /-- Whether one of the operands is true. -/
  | or
  /-- Whether both operands are true. -/
  | and
  /-- The bits of either operand. -/
  | bitOr
  /-- The bits of exactly one operand. -/
  | bitXor
  /-- The bits of both operands. -/
  | bitAnd
  /-- Equality. -/
  | equal
  /-- Difference. -/
  | notEqual
  /-- Less than. -/
  | less
  /-- Less than or equal. -/
  | lessEqual
  /-- Greater than. -/
  | greater
  /-- Greater than or equal. -/
  | greaterEqual
  /-- Shift to the left. -/
  | shiftLeft
  /-- Shift to the right. -/
  | shiftRight
  /-- Sum. -/
  | add
  /-- Subtraction. -/
  | sub
  /-- Product. -/
  | mul
  /-- Quotient, computed in double precision and cut off at the point. -/
  | div
  /-- Remainder, with the sign of the second operand. -/
  | mod
  deriving DecidableEq, Repr

/-- Operators with one operand. -/
inductive UnaryOp where
  /-- The operand. -/
  | plus
  /-- The negated operand. -/
  | minus
  /-- Whether the operand is false. -/
  | not
  /-- The complement of the bits. -/
  | bitNot
  deriving DecidableEq, Repr

/-- A condition. -/
inductive Expr where
  /-- A number. -/
  | number (word : Word)
  /-- Something that stands for no number. -/
  | fault
  /-- One operand. -/
  | unary (op : UnaryOp) (operand : Expr)
  /-- Two operands. -/
  | binary (op : BinaryOp) (left right : Expr)
  /-- The second or the third operand, as the first one says. -/
  | choice (condition whenTrue whenFalse : Expr)
  deriving Repr

/-- The binary operators with their spelling and their binding strength. -/
def binaryOps : List (String × BinaryOp × Nat) :=
  [(",", .sequence, 1), ("||", .or, 3), ("&&", .and, 4), ("|", .bitOr, 5), ("^", .bitXor, 6),
    ("&", .bitAnd, 7), ("==", .equal, 8), ("!=", .notEqual, 8), ("<", .less, 9),
    ("<=", .lessEqual, 9), (">", .greater, 9), (">=", .greaterEqual, 9), ("<<", .shiftLeft, 10),
    (">>", .shiftRight, 10), ("+", .add, 11), ("-", .sub, 11), ("*", .mul, 12), ("/", .div, 12),
    ("%", .mod, 12)]

/-- The unary operators with their spelling. -/
def unaryOps : List (String × UnaryOp) :=
  [("+", .plus), ("-", .minus), ("!", .not), ("~", .bitNot)]

/-- The bitwise combination of two numbers. -/
def bitwise (f : Nat → Nat → Nat) (a b : Int) (unsigned : Bool) : Word :=
  .wrap (f (a.emod wordCount).toNat (b.emod wordCount).toNat) unsigned

/-- The quotient of two numbers in double precision, without its fractional part. -/
def quotient? (x y : Int) : Option Int :=
  if y = 0 then none
  else (Double.nearest (mkRat (if y < 0 then -x else x) y.natAbs)).truncate?

/-- Shifts to the left by this distance or more find no room. -/
def maxShift : Int :=
  0x1000000000

/-- A number shifted to the left, unless there is no room for it. -/
def shiftLeft? (value distance : Int) : Option Int :=
  if distance < 0 then none
  else if value = 0 then some 0
  else if maxShift ≤ distance then none
  else some (if 64 ≤ distance then 0 else value <<< distance.toNat)

/-- A number shifted to the right. -/
def shiftRight? (value distance : Int) : Option Int :=
  if distance < 0 then none else some (value >>> min distance.toNat 64)

/-- Applies an operator with two operands. Unsigned numbers make the other operand and the result
unsigned, but the result of a shift has the kind of the first operand. Division by zero and shifts
by a negative distance fail. -/
def BinaryOp.apply (op : BinaryOp) (a b : Word) : Option Word :=
  let unsigned := a.unsigned || b.unsigned
  let x := (Word.wrap a.value unsigned).value
  let y := (Word.wrap b.value unsigned).value
  let distance := if a.unsigned then y else b.value
  match op with
  | .sequence => some b
  | .or => some (.ofBool (a.isTrue || b.isTrue))
  | .and => some (.ofBool (a.isTrue && b.isTrue))
  | .bitOr => some (bitwise Nat.lor x y unsigned)
  | .bitXor => some (bitwise Nat.xor x y unsigned)
  | .bitAnd => some (bitwise Nat.land x y unsigned)
  | .equal => some (.ofBool (x == y) unsigned)
  | .notEqual => some (.ofBool (x != y) unsigned)
  | .less => some (.ofBool (x < y) unsigned)
  | .lessEqual => some (.ofBool (x ≤ y) unsigned)
  | .greater => some (.ofBool (y < x) unsigned)
  | .greaterEqual => some (.ofBool (y ≤ x) unsigned)
  | .shiftLeft => (shiftLeft? a.value distance).map (Word.wrap · a.unsigned)
  | .shiftRight => (shiftRight? a.value distance).map (Word.wrap · a.unsigned)
  | .add => some (.wrap (x + y) unsigned)
  | .sub => some (.wrap (x - y) unsigned)
  | .mul => some (.wrap (x * y) unsigned)
  | .div => (quotient? x y).map (Word.wrap · unsigned)
  | .mod => if y = 0 then none else some (.wrap (x.fmod y) unsigned)

/-- Applies an operator with one operand. A number with a plus sign is signed. -/
def UnaryOp.apply (op : UnaryOp) (a : Word) : Word :=
  match op with
  | .plus => .wrap a.value false
  | .minus => .wrap (-a.value) a.unsigned
  | .not => .ofBool (!a.isTrue)
  | .bitNot => .wrap (-a.value - 1) a.unsigned

/-- The value of a condition, if it can be computed. A choice is unsigned if one of the two numbers
to choose from is. -/
def Expr.eval? : Expr → Option Word
  | .number word => some word
  | .fault => none
  | .unary op operand => operand.eval?.map op.apply
  | .choice condition whenTrue whenFalse => do
    let test ← condition.eval?
    let first := whenTrue.eval?
    let second := whenFalse.eval?
    let unsigned := first.any (·.unsigned) || second.any (·.unsigned)
    let chosen ← if test.isTrue then first else second
    return .wrap chosen.value unsigned
  | .binary op left right =>
    if op = .sequence then right.eval?
    else do
      let a ← left.eval?
      if op = .and ∧ !a.isTrue then return .ofBool false
      else if op = .or ∧ a.isTrue then return .ofBool true
      else op.apply a (← right.eval?)

/-- Whether an expression is something that stands for no number, which has no sign either. -/
def Expr.isText : Expr → Bool
  | .fault => true
  | .binary .sequence _ right => right.isText
  | _ => false

/-- An operator with one operand. A sign in front of something that stands for no number makes the
condition unreadable. -/
def Expr.unary? (op : UnaryOp) (operand : Expr) : Option Expr :=
  if (op = .plus ∨ op = .minus) ∧ operand.isText then none else some (.unary op operand)

/-- The value of digits in a base, if there are any and all of them are digits of the base. -/
def baseValue? (base : Nat) (digits : List Char) : Option Nat :=
  if digits.isEmpty then none
  else
    digits.foldlM (fun value c => do
      let digit ←
        if c.isAlpha then some (c.toLower.toNat - 'a'.toNat + 10) else digitValue? c
      if digit < base then some (base * value + digit) else none) 0

/-- Octal digits. -/
def isOctalDigit (c : Char) : Bool :=
  '0' ≤ c && c ≤ '7'

/-- How many decimal digits are read. -/
def maxDecimalDigits : Nat :=
  4300

/-- The number that a lexeme spells. What stands behind the last digit of its base is a suffix. -/
def integerWord? (text : List Char) : Option Word := do
  let isHex := text.head? == some '0' && (text.drop 1).head?.any fun c => c == 'x' || c == 'X'
  let isOctal := text.head? == some '0'
  let isDigit := if isHex then isHexDigit else if isOctal then isOctalDigit else Char.isDigit
  let digits := dropEndWhile (fun c => !isDigit c) text
  let unsigned := (text.drop digits.length).any fun c => c == 'u' || c == 'U'
  let value ←
    if isHex then baseValue? 16 (digits.drop 2)
    else if isOctal then baseValue? 8 digits
    else if digits.length ≤ maxDecimalDigits then baseValue? 10 digits
    else none
  return .wrap value unsigned

/-- The characters of short escapes. -/
def shortEscapes : List (Char × Nat) :=
  [('a', 7), ('b', 8), ('f', 12), ('n', 10), ('r', 13), ('t', 9), ('v', 11), ('\\', 92), ('\'', 39),
    ('"', 34)]

/-- The characters that introduce a code in hexadecimal digits, and the number of the digits. -/
def codeEscapes : List (Char × Nat) :=
  [('x', 2), ('u', 4), ('U', 8)]

/-- The code that an escape by name stands for, given behind its letter. The name stands in
braces. -/
def namedCode? : List Char → Option Nat
  | '\x7b' :: rest => if rest.getLast? = some '\x7d' then charNamed? rest.dropLast else none
  | _ => none

/-- The code that an escape stands for, given without its backslash. -/
def escapedCode? : List Char → Option Nat
  | [] => none
  | 'N' :: rest => namedCode? rest
  | c :: rest =>
    match shortEscapes.lookup c, codeEscapes.lookup c with
    | some code, _ => if rest.isEmpty then some code else none
    | none, some count =>
      if rest.length = count ∧ rest.all isHexDigit then
        (baseValue? 16 rest).filter (· ≤ 0x10ffff)
      else none
    | none, none =>
      if rest.length ≤ 2 ∧ (c :: rest).all isOctalDigit then baseValue? 8 (c :: rest) else none

/-- The number that the inside of a character literal stands for. -/
def charWord? (inside : List Char) : Option Word := do
  let code ←
    match inside with
    | [c] => some c.toNat
    | '\\' :: escape => escapedCode? escape
    | _ => none
  return .wrap code false

/-- What stands between the quotes of a character literal. -/
def insideQuotes (text : List Char) : List Char :=
  ((text.dropWhile (· != '\'')).drop 1).dropLast

/-- What the reader of a condition waits for, innermost first. -/
inductive Pending where
  /-- The operand of an operator. -/
  | unary (op : UnaryOp)
  /-- The second operand of an operator. -/
  | binary (op : BinaryOp) (strength : Nat) (left : Expr)
  /-- The end of a parenthesis. -/
  | group
  /-- The end of the argument of a name. A name counts as zero, also when it is called. -/
  | call
  /-- The end of a name in angle brackets, which stands for no number. -/
  | angle
  /-- The colon of a choice. -/
  | chosen (condition : Expr)
  /-- The last operand of a choice. -/
  | otherwise (condition whenTrue : Expr)

/-- The binding strength of a choice. -/
def choiceStrength : Nat :=
  2

/-- Completes the expressions that bind at least as strongly as an operator of the given strength
that follows them. -/
def complete? (strength : Nat) (operand : Expr) : List Pending → Option (Expr × List Pending)
  | .unary op :: pending => do complete? strength (← Expr.unary? op operand) pending
  | .binary op s left :: pending =>
    if strength ≤ s then complete? strength (.binary op left operand) pending
    else some (operand, .binary op s left :: pending)
  | .otherwise condition whenTrue :: pending =>
    if strength ≤ choiceStrength then
      complete? strength (.choice condition whenTrue operand) pending
    else some (operand, .otherwise condition whenTrue :: pending)
  | pending => some (operand, pending)

/-- What a lexeme stands for where an operand is expected. -/
inductive OperandShape where
  /-- A number or something that stands for none. -/
  | literal (expr : Expr)
  /-- A name. -/
  | name
  /-- A literal without meaning, which makes the condition unreadable. -/
  | meaningless
  /-- An empty character literal, which makes the reader start over. -/
  | empty

/-- What a lexeme stands for where an operand is expected. Symbols are no operands. -/
def operandShape? (l : Lexeme) : Option OperandShape :=
  match l.kind with
  | .integer => some ((integerWord? l.text).elim .meaningless fun word => .literal (.number word))
  | .char =>
    let inside := insideQuotes l.text
    if inside.isEmpty then some .empty
    else some ((charWord? inside).elim .meaningless fun word => .literal (.number word))
  | .string => some (.literal .fault)
  | .ident => some .name
  | _ => none

/-- What the reader of a condition has read last. -/
inductive Front where
  /-- Nothing yet, or a symbol that an operand has to follow. -/
  | start
  /-- A lexeme that is an operand, if what follows it allows that. -/
  | lexeme (shape : OperandShape)
  /-- An operand. -/
  | operand (expr : Expr)

/-- The state of the reader of a condition. -/
structure ExprReader where
  /-- What the reader waits for. -/
  pending : List Pending := []
  /-- What has been read last. -/
  front : Front := .start
  /-- Over how many further lexemes a mistake makes the reader start over. -/
  lenient : Nat := 0

namespace ExprReader

/-- Over how many lexemes the reader is lenient when it has started over. -/
def grace : Nat :=
  3

/-- The state in which the reader starts over. -/
def restart : ExprReader :=
  { lenient := grace }

/-- The state after one more lexeme. -/
def shift (r : ExprReader) (pending : List Pending) (front : Front := .start) : ExprReader :=
  ⟨pending, front, r.lenient - 1⟩

/-- The state behind a lexeme that does not fit. A mistake makes the condition unreadable, unless
the reader is lenient: then it starts over. -/
def mistake? (r : ExprReader) : Option ExprReader :=
  if r.lenient = 0 then none else some restart

/-- Completes a name in angle brackets, if one has just been read and `next` is not the start of an
operand. -/
def closeAngle (r : ExprReader) (next : Option Lexeme) : ExprReader :=
  match r.front, r.pending with
  | .start, .binary .greater _ _ :: .angle :: pending =>
    let goesOn := fun l : Lexeme =>
      l.kind != .symbol || ["+", "-", "!", "~", "("].any l.hasText
    if next.any goesOn then r else { r with pending := pending, front := .operand .fault }
  | _, _ => r

/-- Whether a lexeme can follow an operand. -/
def followsOperand (l : Lexeme) : Bool :=
  l.kind == .symbol &&
    ([")", "?", ":"].any l.hasText || (binaryOps.lookup (String.ofList l.text)).isSome)

/-- Reads a symbol where an operand is expected. -/
def beforeOperand? (r : ExprReader) (l : Lexeme) : Option ExprReader :=
  if l.kind ≠ .symbol then r.mistake?
  else if l.hasText "(" then some (r.shift (.group :: r.pending))
  else if l.hasText "<" then some (r.shift (.angle :: r.pending))
  else
    match unaryOps.lookup (String.ofList l.text) with
    | some op => some (r.shift (.unary op :: r.pending))
    | none => r.mistake?

/-- Reads a lexeme behind an operand. -/
def afterOperand? (r : ExprReader) (operand : Expr) (l : Lexeme) : Option ExprReader := do
  if l.kind ≠ .symbol then r.mistake?
  else if l.hasText ")" then
    match ← complete? 0 operand r.pending with
    | (inner, .group :: pending) => return r.shift pending (.operand inner)
    | (_, .call :: pending) => return r.shift pending (.operand (.number (.ofBool false)))
    | _ => r.mistake?
  else if l.hasText ":" then
    match ← complete? 0 operand r.pending with
    | (whenTrue, .chosen condition :: pending) =>
      return r.shift (.otherwise condition whenTrue :: pending)
    | _ => r.mistake?
  else if l.hasText "?" then
    let (condition, pending) ← complete? choiceStrength operand r.pending
    return r.shift (.chosen condition :: pending)
  else
    match binaryOps.lookup (String.ofList l.text) with
    | some (op, strength) =>
      let (left, pending) ← complete? strength operand r.pending
      return r.shift (.binary op strength left :: pending)
    | none => r.mistake?

/-- Reads the next lexeme. There is no result when the condition is unreadable. The lexeme behind an
empty character literal is lost. -/
def next? (r : ExprReader) (l : Lexeme) : Option ExprReader :=
  let r := r.closeAngle (some l)
  match r.front with
  | .start =>
    match operandShape? l with
    | some shape => some (r.shift r.pending (.lexeme shape))
    | none => r.beforeOperand? l
  | .operand expr => r.afterOperand? expr l
  | .lexeme shape =>
    if shape matches .name && l.hasText "(" then some (r.shift (.call :: r.pending))
    else if !followsOperand l then r.mistake?
    else
      match shape with
      | .literal expr => r.afterOperand? expr l
      | .name => r.afterOperand? (.number (.ofBool false)) l
      | .meaningless => none
      | .empty => some restart

/-- The condition that has been read, when nothing follows. -/
def finish? (r : ExprReader) : Option Expr :=
  let r := r.closeAngle none
  let operand? :=
    match r.front with
    | .operand expr => some expr
    | .lexeme (.literal expr) => some expr
    | .lexeme .name => some (.number (.ofBool false))
    | _ => none
  match operand?.bind (complete? 0 · r.pending) with
  | some (expr, []) => some expr
  | _ => none

end ExprReader

/-- Reads a condition. Blanks and comments do not count. -/
def Expr.read? (lexemes : List Lexeme) : Option Expr := do
  let reader ← (lexemes.filter fun l => !(l.isSpace || l.isComment)).foldlM ExprReader.next? {}
  reader.finish?

/-- The answer to a question whether a name is defined, and the lexemes behind the question. The
flag tells that a parenthesis has been read. -/
def answerDefined (defs : Definitions) (answer inParens : Bool) : List Lexeme → Bool × List Lexeme
  | [] => (answer, [])
  | l :: rest =>
    if l.isSpace then answerDefined defs answer inParens rest
    else if l.kind = .ident then
      let answer := defs.contains (String.ofList l.text)
      if inParens then answerDefined defs answer inParens rest else (answer, rest)
    else if l.hasText "(" then answerDefined defs answer true rest
    else if l.hasText ")" then (answer, rest)
    else answerDefined defs answer inParens rest

/-- A lexeme that says whether a name is defined. -/
def Lexeme.withAnswer (l : Lexeme) (answer : Bool) : Lexeme :=
  { l with kind := .integer, text := [if answer then '1' else '0', 'L'] }

/-- Answers the questions whether a name is defined. Each step uses up one unit of `fuel`. -/
def answerAll (defs : Definitions) : Nat → List Lexeme → List Lexeme
  | 0, lexemes => lexemes
  | _ + 1, [] => []
  | fuel + 1, l :: rest =>
    if l.kind = .ident ∧ l.hasText "defined" then
      let (answer, rest) := answerDefined defs false false rest
      l.withAnswer answer :: answerAll defs fuel rest
    else l :: answerAll defs fuel rest

/-- Whether a condition holds, and what is passed along. Questions whether a name is defined are
answered before and after the expansion, and there is no result when the expansion has none. -/
def holds? (defs : Definitions) (lexemes : List Lexeme) (tally : Tally) :
    Option (Bool × Tally) := do
  let expansion ← expand? defs (answerAll defs lexemes.length lexemes) (.ofTally tally)
  let answered := answerAll defs expansion.lexemes.length expansion.lexemes
  return (((Expr.read? answered).bind Expr.eval?).any Word.isTrue, expansion.ledger.toTally)

end BrickLint.Expand
