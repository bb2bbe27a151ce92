import BrickLint.Text.Lowercase

/-!
# Similar names

The distance of two texts is the least number of insertions, deletions and substitutions of single
characters that turns one into the other. A name that resolves nowhere is compared with the known
names, capitals not counting, and the nearest one is suggested when it is near enough.
-/

namespace BrickLint

open Text

/-- The cells of the next row of the distance table, from the cell to the left, the cell diagonally
above, and the cells above. -/
def distanceCells (a : Char) (left diagonal : Nat) : List Char → List Nat → List Nat
  | b :: bs, up :: ups =>
    let cell := min (min (up + 1) (left + 1)) (diagonal + if a = b then 0 else 1)
    cell :: distanceCells a cell up bs ups
  | _, _ => []

/-- The row of the distance table that follows `row` when one more character `a` is read. -/
def distanceRow (bs : List Char) (row : List Nat) (a : Char) : List Nat :=
  match row with
  | [] => []
  | first :: ups => (first + 1) :: distanceCells a (first + 1) first bs ups

/-- The last cell of the distance table of two texts, computed row by row. -/
def tableDistance (as bs : List Char) : Nat :=
  (as.foldl (distanceRow bs) (List.range (bs.length + 1))).getLast?.getD 0

/-- The edit distance of two texts (`levenshtein`). The table is not needed for equal texts, nor
beside an empty one. -/
def editDistance (as bs : List Char) : Nat :=
  if as = bs then 0
  else if as.isEmpty then bs.length
  else if bs.isEmpty then as.length
  else tableDistance as bs

/-- How far a suggestion may be from a name (`threshold`): short names allow one edit, longer ones
two. -/
def editLimit (name : List Char) : Nat :=
  if name.length ≤ 4 then 1 else 2

/-- Whether the length of a candidate alone puts it out of reach. -/
def isOutOfReach (name : List Char) (candidate : String) : Bool :=
  let length := candidate.toList.length
  editLimit name < length - name.length || editLimit name < name.length - length

/-- The better of the best candidate so far and a further one. A candidate that is out of reach is
passed over, and of equally near candidates the first stays. -/
def betterMatch (name lowered : List Char) (best : Option (String × Nat)) (candidate : String) :
    Option (String × Nat) :=
  if isOutOfReach name candidate then best
  else
    let distance := editDistance lowered (lowercase candidate.toList)
    let bound := (best.map (·.2)).getD (editLimit name + 1)
    if distance < bound then some (candidate, distance) else best

/-- The nearest candidate to a name, if one is near enough (`suggest`). -/
def suggest (name : List Char) (candidates : List String) : Option String :=
  (candidates.foldl (betterMatch name (lowercase name)) none).map (·.1)

end BrickLint
