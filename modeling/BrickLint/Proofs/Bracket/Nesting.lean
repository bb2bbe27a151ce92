import BrickLint.Proofs.Anchor.Mark

/-!
# Nested brackets

The brackets of a text are well nested when they are made up of pairs, one inside or behind the
other. A stack of open brackets decides this: it is pushed by opening brackets and popped by closing
ones of the same kind, and what it holds at the end are the brackets that no closing one matches.
-/

namespace BrickLint

open Text

/-- A bracket character. -/
inductive BracketMark where
  /-- An opening bracket. -/
  | opens (bracket : Bracket)
  /-- A closing bracket. -/
  | closes (bracket : Bracket)
  deriving DecidableEq, Repr

/-- The character of a mark. -/
def BracketMark.char : BracketMark → Char
  | .opens bracket => bracket.opener
  | .closes bracket => bracket.closer

/-- The mark that a character is. -/
def BracketMark.ofChar? (c : Char) : Option BracketMark :=
  ((Bracket.ofOpener? c).map .opens).or ((Bracket.ofCloser? c).map .closes)

/-- The brackets of a text, in order. -/
def bracketMarks (text : List Char) : List BracketMark :=
  text.filterMap BracketMark.ofChar?

/-- A mark is told by its character. -/
theorem BracketMark.ofChar?_eq_some_iff {c : Char} {mark : BracketMark} :
    BracketMark.ofChar? c = some mark ↔ c = mark.char := by
  constructor
  · intro h
    rcases Option.or_eq_some_iff.mp h with h | ⟨_, h⟩
    · obtain ⟨bracket, hbracket, rfl⟩ := Option.map_eq_some_iff.mp h
      exact (Bracket.opener_of_ofOpener? hbracket).symm
    · obtain ⟨bracket, hbracket, rfl⟩ := Option.map_eq_some_iff.mp h
      exact (Bracket.closer_of_ofCloser? hbracket).symm
  · rintro rfl
    cases mark with
    | opens bracket => cases bracket <;> rfl
    | closes bracket => cases bracket <;> rfl

/-- An empty text has no brackets. -/
@[simp] theorem bracketMarks_nil : bracketMarks [] = [] :=
  rfl

/-- The marks of two texts stand one behind the other. -/
@[simp] theorem bracketMarks_append (text more : List Char) :
    bracketMarks (text ++ more) = bracketMarks text ++ bracketMarks more :=
  List.filterMap_append

/-- A bracket in front of a text is the first mark. -/
@[simp] theorem bracketMarks_cons (mark : BracketMark) (text : List Char) :
    bracketMarks (mark.char :: text) = mark :: bracketMarks text :=
  List.filterMap_cons_some (BracketMark.ofChar?_eq_some_iff.mpr rfl)

/-- An opening bracket in front of a text is the first mark. -/
@[simp] theorem bracketMarks_opener (bracket : Bracket) (text : List Char) :
    bracketMarks (bracket.opener :: text) = .opens bracket :: bracketMarks text :=
  bracketMarks_cons (.opens bracket) text

/-- A closing bracket in front of a text is the first mark. -/
@[simp] theorem bracketMarks_closer (bracket : Bracket) (text : List Char) :
    bracketMarks (bracket.closer :: text) = .closes bracket :: bracketMarks text :=
  bracketMarks_cons (.closes bracket) text

/-- Marks that are made up of pairs. -/
inductive WellNested : List BracketMark → Prop
  /-- There are no brackets. -/
  | nil : WellNested []
  /-- A pair stands around some brackets and before others. -/
  | pair (bracket : Bracket) {inner rest : List BracketMark} (hinner : WellNested inner)
      (hrest : WellNested rest) :
      WellNested (.opens bracket :: (inner ++ .closes bracket :: rest))

/-- Pairs stand one behind the other. -/
theorem WellNested.append {marks more : List BracketMark} (h : WellNested marks)
    (hmore : WellNested more) : WellNested (marks ++ more) := by
  induction h with
  | nil => exact hmore
  | pair bracket hinner hrest _ ihrest =>
    simpa using WellNested.pair bracket hinner ihrest

/-- The open brackets, innermost first, after some marks have been read; nothing when a closing
bracket does not match. -/
def followMarks (stack : List Bracket) : List BracketMark → Option (List Bracket)
  | [] => some stack
  | .opens bracket :: marks => followMarks (bracket :: stack) marks
  | .closes bracket :: marks =>
    match stack with
    | [] => none
    | top :: rest => if top = bracket then followMarks rest marks else none

/-- Marks are read one part after the other. -/
theorem followMarks_append (stack : List Bracket) (marks more : List BracketMark) :
    followMarks stack (marks ++ more) =
      (followMarks stack marks).bind fun stack => followMarks stack more := by
  induction marks generalizing stack with
  | nil => rfl
  | cons mark marks ih =>
    cases mark with
    | opens bracket => exact ih (bracket :: stack)
    | closes bracket =>
      cases stack with
      | nil => rfl
      | cons top rest =>
        by_cases htop : top = bracket
        · simp [followMarks, htop, ih]
        · simp [followMarks, htop]

/-- Well nested marks leave the open brackets alone. -/
theorem WellNested.followMarks_eq {marks : List BracketMark} (h : WellNested marks)
    (stack : List Bracket) : followMarks stack marks = some stack := by
  induction h generalizing stack with
  | nil => rfl
  | pair bracket _ _ ihinner ihrest =>
    simp [followMarks, followMarks_append, ihinner, ihrest]

/-- Brackets that are not well nested do not become so by what follows. -/
theorem not_wellNested_of_followMarks {marks : List BracketMark}
    (h : followMarks [] marks = none) (more : List BracketMark) :
    ¬WellNested (marks ++ more) := by
  intro hnested
  have hread := hnested.followMarks_eq []
  rw [followMarks_append, h] at hread
  simp at hread

/-- An opening bracket with well nested brackets behind it is not closed. -/
theorem not_wellNested_of_opens {bracket : Bracket} {inner : List BracketMark}
    (hinner : WellNested inner) (before : List BracketMark) :
    ¬WellNested (before ++ .opens bracket :: inner) := by
  intro hnested
  have hread := hnested.followMarks_eq []
  rw [followMarks_append] at hread
  obtain ⟨stack, _, hstack⟩ := Option.bind_eq_some_iff.mp hread
  simp [followMarks, hinner.followMarks_eq] at hstack

end BrickLint
