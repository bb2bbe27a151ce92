/-!
# Conditional groups

Conditional directives are followed without evaluating their conditions. Every `#if` opens a group
with a number of its own, and `#else` and `#elif` move on to the next branch of the innermost group.
A place in the text is described by its *path*, the branches around it. Two places in different
branches of one group are siblings: at most one of them is compiled.
-/

namespace BrickLint

/-- A branch of a conditional group. -/
structure Branch where
  /-- The number of the group. -/
  group : Int
  /-- The number of the branch within its group. -/
  branch : Int
  deriving DecidableEq, Repr

/-- The conditional groups around a place in the text (`ConditionalTracker`). -/
structure Conditionals where
  /-- The branches around the place, innermost first. -/
  enclosing : List Branch := []
  /-- The number of the next group. -/
  nextGroup : Nat := 0
  deriving DecidableEq, Repr

/-- What a directive does to the conditional groups. -/
inductive ConditionalStep where
  /-- Opens a group. -/
  | enter
  /-- Moves on to the next branch. -/
  | next
  /-- Closes the innermost group. -/
  | leave
  deriving DecidableEq, Repr

/-- The effect of a directive, if it is a conditional one. -/
def ConditionalStep.ofName? (directive : String) : Option ConditionalStep :=
  if ["if", "ifdef", "ifndef"].contains directive then some .enter
  else if ["else", "elif"].contains directive then some .next
  else if directive = "endif" then some .leave
  else none

namespace Conditionals

/-- The branches around the place, outermost first. -/
def path (c : Conditionals) : List Branch :=
  c.enclosing.reverse

/-- How many groups are open. -/
def depth (c : Conditionals) : Nat :=
  c.enclosing.length

/-- Performs a step. Without an open group there is nothing to move on from or to close. -/
def perform (c : Conditionals) : ConditionalStep → Conditionals
  | .enter => ⟨⟨c.nextGroup, 0⟩ :: c.enclosing, c.nextGroup + 1⟩
  | .next =>
    match c.enclosing with
    | [] => c
    | b :: outer => ⟨⟨b.group, b.branch + 1⟩ :: outer, c.nextGroup⟩
  | .leave => ⟨c.enclosing.tail, c.nextGroup⟩

/-- Follows a directive (`ConditionalTracker.apply`); a directive that is not conditional changes
nothing. -/
def apply (c : Conditionals) (directive : String) : Conditionals :=
  (ConditionalStep.ofName? directive).elim c c.perform

end Conditionals

/-- Whether two paths, outermost branch first, part within one group (`in_sibling_branches`). -/
def inSiblingBranches : List Branch → List Branch → Bool
  | a :: as, b :: bs =>
    if a.group ≠ b.group then false
    else if a.branch ≠ b.branch then true
    else inSiblingBranches as bs
  | _, _ => false

end BrickLint
