import BrickLint.Tools.Expand.Definition

/-!
# Replacement

Every use of a defined name is replaced until nothing is left to replace. A name is not replaced
inside its own replacement, so the process ends. Besides the definitions there are two names with a
changing value: the number of the line, and a counter that goes up with every use.

An argument may be put into a replacement at several places. These are places of the same lexemes:
what is learnt about a lexeme at one of them holds at all of them. So a name with a changing value
has one value in all places of an argument, and a name that was produced by its own replacement at
one place is replaced at none.
-/

namespace BrickLint.Expand

/-- What is passed along from one expansion to the next. -/
structure Tally where
  /-- The next value of the counter. -/
  counter : Nat := 0
  /-- The number that every later use of the name of the line shows. It is fixed by a call that is
  left open. -/
  fixedLine : Option Nat := none
  deriving DecidableEq, Repr

/-- What has been learnt about a lexeme. -/
inductive Remark where
  /-- The value of a name with a changing value. -/
  | value (number : Nat)
  /-- A blank was written as one space. -/
  | narrow
  deriving DecidableEq, Repr

/-- What is known about the lexemes of an expansion. -/
structure Ledger extends Tally where
  /-- What has been learnt about lexemes, by occurrence. -/
  remarks : Array (Option Remark) := #[]
  /-- The definitions that lexemes were produced by, by lineage. -/
  histories : Array (List String) := #[]

/-- A whole number in place of a lexeme. -/
def Lexeme.withNumber (l : Lexeme) (value : Nat) : Lexeme :=
  { l with kind := .integer, text := (toString value).toList }

/-- The name of the line number. -/
def lineName : String :=
  "__LINE__"

/-- The name of the counter. -/
def counterName : String :=
  "__COUNTER__"

/-- Whether a lexeme is a name with a changing value. -/
def Lexeme.isChanging (l : Lexeme) : Bool :=
  l.kind == .ident && (l.hasText lineName || l.hasText counterName)

namespace Ledger

/-- The ledger at the start of an expansion. -/
def ofTally (tally : Tally) : Ledger :=
  { tally with }

/-- Gives an identity to a lexeme that has none. -/
def register (ledger : Ledger) (l : Lexeme) : Lexeme × Ledger :=
  if l.occurrence.isSome && l.lineage.isSome then (l, ledger)
  else
    let next := ledger.histories.size
    ({ l with
        occurrence := some (l.occurrence.getD next)
        lineage := some (l.lineage.getD next) },
      { ledger with
        remarks := ledger.remarks.push none
        histories := ledger.histories.push [] })

/-- Gives an identity to the lexemes of a list that have none. The lexemes that are done are listed
latest first. -/
def registerFrom (ledger : Ledger) (done : List Lexeme) : List Lexeme → List Lexeme × Ledger
  | [] => (done.reverse, ledger)
  | l :: rest =>
    let (l, ledger) := ledger.register l
    ledger.registerFrom (l :: done) rest

/-- Gives an identity to the lexemes of a list that have none. -/
def registerAll (ledger : Ledger) (lexemes : List Lexeme) : List Lexeme × Ledger :=
  ledger.registerFrom [] lexemes

/-- Shows what has been learnt about a lexeme: the value of a name with a changing value, and one
space for a blank that was written so. -/
def settle (ledger : Ledger) (l : Lexeme) : Lexeme :=
  match l.occurrence.bind fun occurrence => ledger.remarks[occurrence]?.join with
  | some (.value number) => if l.isChanging then l.withNumber number else l
  | some .narrow => if l.kind = .blank then { l with text := [' '] } else l
  | none => l

/-- Notes what has been learnt about a lexeme. -/
def note (ledger : Ledger) (l : Lexeme) (remark : Remark) : Ledger :=
  match l.occurrence with
  | some occurrence =>
    { ledger with remarks := ledger.remarks.setIfInBounds occurrence (some remark) }
  | none => ledger

/-- Notes that the blanks among lexemes are written as one space. -/
def narrowBlanks (ledger : Ledger) (lexemes : List Lexeme) : Ledger :=
  lexemes.foldl (fun ledger l => if l.kind = .blank then ledger.note l .narrow else ledger) ledger

/-- The value of a name with a changing value. The outermost lexeme that is being replaced stands on
line `line`. -/
def determine (ledger : Ledger) (l : Lexeme) (line : Nat) : Lexeme × Ledger :=
  if l.hasText lineName then
    let value := ledger.fixedLine.getD line
    (l.withNumber value, ledger.note l (.value value))
  else
    let value := ledger.counter
    (l.withNumber value, { ledger.note l (.value value) with counter := value + 1 })

/-- Whether a lexeme was produced by a definition. -/
def isProducedBy (ledger : Ledger) (l : Lexeme) (name : String) : Bool :=
  (l.lineage.bind (ledger.histories[·]?)).any (·.contains name)

/-- Notes that a lexeme was produced by a definition. -/
def addProducer (ledger : Ledger) (name : String) (l : Lexeme) : Ledger :=
  match l.lineage with
  | some lineage =>
    { ledger with histories := ledger.histories.modify lineage fun names =>
        if names.contains name then names else name :: names }
  | none => ledger

/-- Fixes the number of the line, unless it is fixed. -/
def fixLine (ledger : Ledger) (line : Nat) : Ledger :=
  { ledger with fixedLine := some (ledger.fixedLine.getD line) }

end Ledger

/-- What a replacement depends on. -/
structure Context where
  /-- The definitions that hold. -/
  defs : Definitions
  /-- The names whose replacement is being expanded. -/
  active : List String := []
  /-- The line of the outermost lexeme that is being replaced, if there is one. -/
  line : Option Nat := none

/-- What stands behind the name of a definition with parameters. -/
inductive CallShape where
  /-- Something that is no call, which follows the given lexemes. -/
  | noCall (skipped rest : List Lexeme)
  /-- A call whose parentheses are not closed. -/
  | unclosed
  /-- A call with one argument for each parameter, and the lexemes behind it. -/
  | call (arguments : List (List Lexeme)) (rest : List Lexeme)

/-- Fits the lexemes between the parentheses of a call to the parameters of a definition, unless the
number of arguments is wrong. One empty argument fits a definition with no parameter or with one. -/
def fitArguments? (d : Definition) (parameters : List String) (inside : List Lexeme) :
    Option (List (List Lexeme)) :=
  let arguments := (cutAtCommas 0 inside).map stripLexemes
  let count := parameters.length
  if d.variadic then
    if arguments.length + 1 < count then none
    else if arguments.length + 1 = count then some (arguments ++ [[]])
    else some (arguments.take (count - 1) ++ [afterCommas (count - 1) 0 inside])
  else if (arguments == [[]] && count ≤ 1) || arguments.length == count then
    some (arguments ++ List.replicate (count - arguments.length) [])
  else none

/-- Reads what stands behind the name of a definition with parameters. -/
def readCall (d : Definition) (parameters : List String) (rest : List Lexeme) : CallShape :=
  let isGap := fun l : Lexeme => l.isSpace || l.isComment
  let gap := rest.takeWhile isGap
  match rest.dropWhile isGap with
  | [] => .noCall gap []
  | paren :: after =>
    if !paren.hasText "(" then .noCall gap (paren :: after)
    else
      match untilClosed? 0 after with
      | none => .unclosed
      | some (inside, behind) =>
        match fitArguments? d parameters inside with
        | some arguments => .call arguments behind
        | none => .noCall (gap ++ paren :: after.take (after.length - behind.length)) behind

/-- Keeps the first of neighbouring blanks. -/
def collapseBlanks : List Lexeme → List Lexeme
  | [] => []
  | l :: rest =>
    if l.isSpace then l :: (collapseBlanks rest).dropWhile Lexeme.isSpace
    else l :: collapseBlanks rest

/-- The string literal that spells an argument. -/
def quoteArgument (argument : List Lexeme) : List Char :=
  let escape := fun c => if c = '\\' ∨ c = '"' then ['\\', c] else [c]
  '"' :: (lexemesText (collapseBlanks argument)).flatMap escape ++ ['"']

/-- Whether a body spells an argument as a string literal. -/
def quotesArgument (body : List BodyPart) (index : Nat) : Bool :=
  body.any fun part =>
    match part with
    | .quoted i _ => i == index
    | _ => false

/-- Notes that the blanks of the arguments that a body spells are written as one space, at all their
places. -/
def Definition.narrowQuoted (d : Definition) (arguments : List (List Lexeme)) (ledger : Ledger) :
    Ledger :=
  arguments.zipIdx.foldl (fun ledger (argument, index) =>
    if quotesArgument d.body index then ledger.narrowBlanks argument else ledger) ledger

/-- Puts the arguments into a body. The expanded arguments are listed by their index. -/
def fillBody (d : Definition) (arguments : List (List Lexeme))
    (expanded : List (Nat × List Lexeme)) : List Lexeme :=
  let commaGoes := d.variadic && arguments.getLast?.any (·.isEmpty)
  d.body.flatMap fun part =>
    match part with
    | .plain lexeme => [lexeme]
    | .raw index => arguments[index]?.getD []
    | .expanded index => (expanded.lookup index).getD []
    | .quoted index lexeme =>
      [{ lexeme with kind := .string, text := quoteArgument (arguments[index]?.getD []) }]
    | .optionalComma lexeme => if commaGoes then [] else [lexeme]

/-- Cuts a joined lexeme into lexemes again. They are new ones, with the history of the joined
one. -/
def recut (l : Lexeme) : List Lexeme :=
  (lexemesFrom 0 l.line l.text).map fun piece =>
    { l with kind := piece.kind, text := piece.text, occurrence := none }

/-- What a lexeme leaves when nothing more is joined to it; the flag tells that it has been joined.
A joined lexeme without characters leaves nothing that could take its place. -/
def joinedLexemes? (l : Lexeme) (joined : Bool) : Option (List Lexeme) :=
  if !joined then some [l] else if l.text.isEmpty then none else some (recut l)

/-- Joins lexemes across joining operators. The lexeme `l` comes first, the first flag tells that it
has been joined, and the second that a joining operator follows it. -/
def pasteFrom? (l : Lexeme) (joined joining : Bool) : List Lexeme → Option (List Lexeme)
  | [] => joinedLexemes? l joined
  | next :: rest =>
    if next.isPaste then pasteFrom? l joined true rest
    else if joining then pasteFrom? { l with text := l.text ++ next.text } true false rest
    else do
      let first ← joinedLexemes? l joined
      let others ← pasteFrom? next false false rest
      return first ++ others

/-- Joins the neighbours of joining operators. Operators at either end join nothing. There is no
result when lexemes without characters are joined. -/
def paste? (lexemes : List Lexeme) : Option (List Lexeme) :=
  match Text.dropEndWhile Lexeme.isPaste (lexemes.dropWhile Lexeme.isPaste) with
  | [] => some []
  | l :: rest => pasteFrom? l false false rest

/-- Notes that lexemes were produced by a use of a name on a line. -/
def relabel (name : String) (line : Nat) (lexemes : List Lexeme) (ledger : Ledger) :
    List Lexeme × Ledger :=
  (lexemes.map fun l => { l with line := line }, lexemes.foldl (·.addProducer name) ledger)

/-- The space between a replaced call and an identifier right behind it. -/
def gapBefore (next : Option Lexeme) : List Lexeme :=
  match next with
  | some l => if l.kind = .ident then [{ l with kind := .blank, text := [' '] }] else []
  | none => []

/-- The definition that replaces a lexeme, if there is one and it may be used here. -/
def Context.definition? (ctx : Context) (ledger : Ledger) (l : Lexeme) : Option Definition :=
  if l.kind = .ident then
    let name := String.ofList l.text
    if ledger.isProducedBy l name || ctx.active.contains name then none else ctx.defs.find? name
  else none

/-- The context of the replacement of a name, used by a lexeme on a line. -/
def Context.enter (ctx : Context) (name : String) (line : Nat) : Context :=
  { ctx with active := ctx.active ++ [name], line := some (ctx.line.getD line) }

/-- Expands the arguments that a body uses, the rightmost use first, each argument once. -/
def expandArguments? (expand : List Lexeme → Ledger → Option (List Lexeme × Ledger))
    (arguments : List (List Lexeme)) :
    List BodyPart → Ledger → Option (List (Nat × List Lexeme) × Ledger)
  | [], ledger => some ([], ledger)
  | part :: rest, ledger => do
    let (table, ledger) ← expandArguments? expand arguments rest ledger
    match part with
    | .expanded index =>
      if (table.lookup index).isSome then return (table, ledger)
      else
        let (expansion, ledger) ← expand (arguments[index]?.getD []) ledger
        return ((index, expansion) :: table, ledger)
    | _ => return (table, ledger)

/-- Expands lexemes that have an identity. The lexemes that are done are listed latest first. Behind
a call that is left open nothing is replaced. Each step uses up one unit of `fuel`. There is no
result when lexemes without characters are joined on the way. -/
def expandFrom? :
    Nat → Context → List Lexeme → List Lexeme → Ledger → Option (List Lexeme × Ledger)
  | 0, _, done, rest, ledger => some (done.reverse ++ rest, ledger)
  | _ + 1, _, done, [], ledger => some (done.reverse, ledger)
  | fuel + 1, ctx, done, l :: rest, ledger =>
    let l := ledger.settle l
    let line := ctx.line.getD l.line
    match ctx.definition? ledger l with
    | none =>
      if l.isChanging then
        let (l, ledger) := ledger.determine l line
        expandFrom? fuel ctx (l :: done) rest ledger
      else expandFrom? fuel ctx (l :: done) rest ledger
    | some d =>
      let inner := ctx.enter d.name l.line
      match d.parameters with
      | none => do
        let (body, ledger) := ledger.registerAll (fillBody d [] [])
        let (expansion, ledger) ← expandFrom? fuel inner [] body ledger
        let (expansion, ledger) := relabel d.name l.line expansion ledger
        expandFrom? fuel ctx done (expansion ++ rest) ledger
      | some parameters =>
        match readCall d parameters rest with
        | .noCall skipped rest => expandFrom? fuel ctx (skipped.reverse ++ l :: done) rest ledger
        | .unclosed => some (done.reverse ++ l :: rest, ledger.fixLine line)
        | .call arguments rest => do
          let ledger := d.narrowQuoted arguments ledger
          let arguments := arguments.map (·.map ledger.settle)
          let argumentCtx := { ctx with active := [], line := some line }
          let (table, ledger) ←
            expandArguments? (fun argument => expandFrom? fuel argumentCtx [] argument)
              arguments d.body ledger
          let body ← paste? ((fillBody d arguments table).map ledger.settle)
          let (body, ledger) := ledger.registerAll body
          let (expansion, ledger) ← expandFrom? fuel inner [] body ledger
          let (expansion, ledger) := relabel d.name l.line expansion ledger
          let gap := gapBefore (rest.head?.map ledger.settle)
          expandFrom? fuel ctx done (expansion ++ gap ++ rest) ledger

/-- More steps than the expansion of any text that fits into memory takes. -/
def expansionFuel : Nat :=
  0x10000000000

/-- The outcome of an expansion. -/
structure Expanded where
  /-- The lexemes that were put in place of the given ones. -/
  lexemes : List Lexeme
  /-- What is known about all lexemes that took part. -/
  ledger : Ledger

/-- Expands lexemes under the definitions that hold, unless lexemes without characters are joined on
the way. -/
def expand? (defs : Definitions) (lexemes : List Lexeme) (ledger : Ledger) : Option Expanded := do
  let (lexemes, ledger) := ledger.registerAll lexemes
  let (expansion, ledger) ← expandFrom? expansionFuel { defs := defs } [] lexemes ledger
  return ⟨expansion.map ledger.settle, ledger⟩

end BrickLint.Expand
