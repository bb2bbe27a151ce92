import BrickLint.Proofs.BraceScope.Effect

/-!
# Brackets of one kind

Tokens are often followed by the brackets of one kind alone, for example by their parentheses. A
stack of such brackets is no more than a number, and what it holds decides the nesting.
-/

namespace BrickLint

open Text

/-- Marks that close the brackets of a stack one after the other, with well nested marks before each
of them and behind the last. -/
inductive ClosesAll : List Bracket → List BracketMark → Prop
  /-- Nothing is open. -/
  | nil {marks : List BracketMark} (hmarks : WellNested marks) : ClosesAll [] marks
  /-- The innermost bracket is closed first. -/
  | cons {bracket : Bracket} {stack : List Bracket} {inner rest : List BracketMark}
      (hinner : WellNested inner) (hrest : ClosesAll stack rest) :
      ClosesAll (bracket :: stack) (inner ++ .closes bracket :: rest)

/-- A pair of brackets in front leaves the open brackets alone. -/
theorem ClosesAll.pair {stack : List Bracket} {inner rest : List BracketMark}
    (h : ClosesAll stack rest) (bracket : Bracket) (hinner : WellNested inner) :
    ClosesAll stack (.opens bracket :: (inner ++ .closes bracket :: rest)) := by
  cases h with
  | nil hrest => exact .nil (.pair bracket hinner hrest)
  | @cons top stack first rest hfirst hrest =>
    have hfront : WellNested (.opens bracket :: (inner ++ .closes bracket :: first)) :=
      .pair bracket hinner hfirst
    simpa using @ClosesAll.cons top _ _ _ hfront hrest

/-- Marks after which nothing is open close all brackets that were open. -/
theorem closesAll_of_followMarks {stack : List Bracket} {marks : List BracketMark}
    (h : followMarks stack marks = some []) : ClosesAll stack marks := by
  induction marks generalizing stack with
  | nil =>
    obtain rfl : stack = [] := Option.some.inj h
    exact .nil .nil
  | cons mark marks ih =>
    cases mark with
    | opens bracket =>
      have hrest : ClosesAll (bracket :: stack) marks := ih h
      cases hrest with
      | cons hinner hrest => exact hrest.pair bracket hinner
    | closes bracket =>
      cases stack with
      | nil => simp [followMarks] at h
      | cons top stack =>
        by_cases htop : top = bracket
        · subst htop
          have hrest : ClosesAll stack marks := ih (by simpa [followMarks] using h)
          exact .cons .nil hrest
        · simp [followMarks, htop] at h

/-- Marks are well nested if and only if they leave nothing open. -/
theorem wellNested_iff_followMarks {marks : List BracketMark} :
    WellNested marks ↔ followMarks [] marks = some [] := by
  refine ⟨fun h => h.followMarks_eq [], fun h => ?_⟩
  have hcloses := closesAll_of_followMarks h
  cases hcloses with
  | nil hmarks => exact hmarks

/-- The brackets of one kind among some tokens, in order. -/
def marksOf (bracket : Bracket) (tokens : List Token) : List BracketMark :=
  (tokens.filterMap Token.mark?).filter fun mark => mark = .opens bracket ∨ mark = .closes bracket

variable {bracket : Bracket} {token : Token}

/-- The brackets of two lists of tokens stand one behind the other. -/
theorem marksOf_append (bracket : Bracket) (tokens more : List Token) :
    marksOf bracket (tokens ++ more) = marksOf bracket tokens ++ marksOf bracket more := by
  simp [marksOf, List.filterMap_append]

/-- An opening bracket is the first mark. -/
theorem marksOf_cons_opens (htoken : token.mark? = some (.opens bracket)) (tokens : List Token) :
    marksOf bracket (token :: tokens) = .opens bracket :: marksOf bracket tokens := by
  simp [marksOf, htoken]

/-- A closing bracket is the first mark. -/
theorem marksOf_cons_closes (htoken : token.mark? = some (.closes bracket)) (tokens : List Token) :
    marksOf bracket (token :: tokens) = .closes bracket :: marksOf bracket tokens := by
  simp [marksOf, htoken]

/-- Other tokens are passed over. -/
theorem marksOf_cons_other (hopens : token.mark? ≠ some (.opens bracket))
    (hcloses : token.mark? ≠ some (.closes bracket)) (tokens : List Token) :
    marksOf bracket (token :: tokens) = marksOf bracket tokens := by
  cases hmark : token.mark? with
  | none => simp [marksOf, hmark]
  | some mark =>
    have hother : ¬(mark = .opens bracket ∨ mark = .closes bracket) := by
      rintro (rfl | rfl)
      · exact hopens hmark
      · exact hcloses hmark
    simp [marksOf, hmark, hother]

end BrickLint
