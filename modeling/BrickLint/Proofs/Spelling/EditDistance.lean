import BrickLint.Spelling
import Mathlib.Data.List.Basic
import Mathlib.Data.List.Induction
import Mathlib.Order.Bounds.Defs
import Mathlib.Order.MinMax

/-!
# The edit distance

The distance table holds, for each beginning of one text and each beginning of the other, the least
number of edits that lead from the first to the second. So its last cell is the least number of
edits for the whole texts, and the edit distance is a metric.
-/

namespace BrickLint

/-- A text comes from another by one edit of a single character. -/
inductive IsEdit : List Char → List Char → Prop
  | insert (before : List Char) (c : Char) (after : List Char) :
    IsEdit (before ++ after) (before ++ c :: after)
  | delete (before : List Char) (c : Char) (after : List Char) :
    IsEdit (before ++ c :: after) (before ++ after)
  | substitute (before : List Char) (c d : Char) (after : List Char) :
    IsEdit (before ++ c :: after) (before ++ d :: after)

/-- A number of edits, one after the other, turns a text into another. -/
inductive EditsTo : Nat → List Char → List Char → Prop
  | refl (as : List Char) : EditsTo 0 as as
  | step {n : Nat} {as bs cs : List Char} (hedits : EditsTo n as bs) (hedit : IsEdit bs cs) :
    EditsTo (n + 1) as cs

variable {n m : Nat} {as bs cs : List Char}

namespace IsEdit

/-- Each edit can be taken back by one edit. -/
theorem symm (h : IsEdit as bs) : IsEdit bs as := by
  cases h with
  | insert before c after => exact .delete before c after
  | delete before c after => exact .insert before c after
  | substitute before c d after => exact .substitute before d c after

/-- An edit can be made behind a further character. -/
theorem cons (h : IsEdit as bs) (c : Char) : IsEdit (c :: as) (c :: bs) := by
  cases h with
  | insert before d after => exact .insert (c :: before) d after
  | delete before d after => exact .delete (c :: before) d after
  | substitute before d e after => exact .substitute (c :: before) d e after

/-- An edit of a text is an edit of the text read backwards. -/
theorem reverse (h : IsEdit as bs) : IsEdit as.reverse bs.reverse := by
  cases h with
  | insert before c after => simpa using insert after.reverse c before.reverse
  | delete before c after => simpa using delete after.reverse c before.reverse
  | substitute before c d after => simpa using substitute after.reverse c d before.reverse

end IsEdit

namespace EditsTo

/-- One edit is a sequence of edits. -/
theorem single (h : IsEdit as bs) : EditsTo 1 as bs :=
  .step (.refl as) h

/-- Edits can be made one sequence after the other. -/
theorem trans (h : EditsTo n as bs) (h' : EditsTo m bs cs) : EditsTo (n + m) as cs := by
  induction h' with
  | refl => exact h
  | step _ hedit ih => exact .step (ih h) hedit

/-- A first edit can be put in front of a sequence of edits. -/
theorem head (h : IsEdit as bs) (h' : EditsTo n bs cs) : EditsTo (n + 1) as cs := by
  simpa only [Nat.add_comm] using (single h).trans h'

/-- A sequence of edits can be taken back by as many edits. -/
theorem symm (h : EditsTo n as bs) : EditsTo n bs as := by
  induction h with
  | refl as => exact .refl as
  | step _ hedit ih => exact ih.head hedit.symm

/-- A sequence of edits can be made behind a further character. -/
theorem cons (h : EditsTo n as bs) (c : Char) : EditsTo n (c :: as) (c :: bs) := by
  induction h with
  | refl as => exact .refl (c :: as)
  | step _ hedit ih => exact .step ih (hedit.cons c)

/-- The edits of a text are edits of the text read backwards. -/
theorem reverse (h : EditsTo n as bs) : EditsTo n as.reverse bs.reverse := by
  induction h with
  | refl as => exact .refl as.reverse
  | step _ hedit ih => exact .step ih hedit.reverse

/-- A text is written by one insertion for each of its characters. -/
theorem nil_left (bs : List Char) : EditsTo bs.length [] bs := by
  induction bs with
  | nil => exact .refl []
  | cons b bs ih => exact .step ih (.insert [] b bs)

/-- Of two sequences of edits, one is as short as the shorter. -/
theorem shorter (h : EditsTo n as bs) (h' : EditsTo m as bs) : EditsTo (min n m) as bs := by
  rcases min_choice n m with hmin | hmin <;> rw [hmin] <;> assumption

/-- The empty sequence of edits leaves a text as it is. -/
theorem eq_of_zero (h : EditsTo 0 as bs) : as = bs := by
  cases h
  rfl

end EditsTo

/-- The least number of edits between two texts, by what becomes of their first characters: the
first is deleted, the second is inserted, or the one is put in the place of the other. -/
def leastEdits : List Char → List Char → Nat
  | [], bs => bs.length
  | a :: as, [] => (a :: as).length
  | a :: as, b :: bs =>
    min (min (leastEdits as (b :: bs) + 1) (leastEdits (a :: as) bs + 1))
      (leastEdits as bs + if a = b then 0 else 1)
termination_by as bs => as.length + bs.length

@[simp]
theorem leastEdits_nil_left (bs : List Char) : leastEdits [] bs = bs.length := by
  simp [leastEdits]

@[simp]
theorem leastEdits_nil_right (as : List Char) : leastEdits as [] = as.length := by
  cases as <;> simp [leastEdits]

theorem leastEdits_cons_cons (a b : Char) (as bs : List Char) :
    leastEdits (a :: as) (b :: bs) =
      min (min (leastEdits as (b :: bs) + 1) (leastEdits (a :: as) bs + 1))
        (leastEdits as bs + if a = b then 0 else 1) := by
  rw [leastEdits]

/-- As many edits as `leastEdits` counts are enough. -/
theorem editsTo_leastEdits (as bs : List Char) : EditsTo (leastEdits as bs) as bs := by
  induction as, bs using leastEdits.induct with
  | case1 bs => simpa using EditsTo.nil_left bs
  | case2 a as => simpa using (EditsTo.nil_left (a :: as)).symm
  | case3 a as b bs ihdelete ihinsert ihsubstitute =>
    have hdelete : EditsTo (leastEdits as (b :: bs) + 1) (a :: as) (b :: bs) :=
      ihdelete.head (.delete [] a as)
    have hinsert : EditsTo (leastEdits (a :: as) bs + 1) (a :: as) (b :: bs) :=
      .step ihinsert (.insert [] b bs)
    have hsubstitute :
        EditsTo (leastEdits as bs + if a = b then 0 else 1) (a :: as) (b :: bs) := by
      split
      case isTrue h => subst h; exact ihsubstitute.cons a
      case isFalse h => exact .step (ihsubstitute.cons a) (.substitute [] a b bs)
    rw [leastEdits_cons_cons]
    exact (hdelete.shorter hinsert).shorter hsubstitute

section LowerBound

/-- One more character in the first text is at most one more edit. -/
theorem leastEdits_cons_left_le (a : Char) (as bs : List Char) :
    leastEdits (a :: as) bs ≤ leastEdits as bs + 1 := by
  cases bs with
  | nil => simp
  | cons b bs => rw [leastEdits_cons_cons]; omega

/-- One more character in the second text is at most one more edit. -/
theorem leastEdits_cons_right_le (b : Char) (as bs : List Char) :
    leastEdits as (b :: bs) ≤ leastEdits as bs + 1 := by
  cases as with
  | nil => simp
  | cons a as => rw [leastEdits_cons_cons]; omega

/-- One character less in the second text is at most one more edit. -/
theorem leastEdits_le_cons_right (b : Char) (as bs : List Char) :
    leastEdits as bs ≤ leastEdits as (b :: bs) + 1 := by
  induction as with
  | nil => simp only [leastEdits_nil_left, List.length_cons]; omega
  | cons a as ih =>
    have hleft := leastEdits_cons_left_le a as bs
    rw [leastEdits_cons_cons]
    omega

/-- Another first character in the second text is at most one more edit. -/
theorem leastEdits_cons_right_le_cons (b b' : Char) (as bs : List Char) :
    leastEdits as (b' :: bs) ≤ leastEdits as (b :: bs) + 1 := by
  induction as with
  | nil => simp
  | cons a as ih =>
    rw [leastEdits_cons_cons, leastEdits_cons_cons]
    split <;> omega

/-- A text that is never more than one edit farther than another stays so behind a common first
character. -/
theorem leastEdits_cons_right_le_of_forall (b : Char)
    (h : ∀ as, leastEdits as cs ≤ leastEdits as bs + 1) (as : List Char) :
    leastEdits as (b :: cs) ≤ leastEdits as (b :: bs) + 1 := by
  induction as with
  | nil => simpa using h []
  | cons a as ih =>
    have hwith := h (a :: as)
    have hwithout := h as
    rw [leastEdits_cons_cons, leastEdits_cons_cons]
    omega

/-- It stays so behind a common beginning. -/
theorem leastEdits_append_right_le_of_forall (before : List Char)
    (h : ∀ as, leastEdits as cs ≤ leastEdits as bs + 1) (as : List Char) :
    leastEdits as (before ++ cs) ≤ leastEdits as (before ++ bs) + 1 := by
  induction before generalizing as with
  | nil => exact h as
  | cons b before ih => exact leastEdits_cons_right_le_of_forall b ih as

/-- One edit of the second text adds at most one to the least number of edits. -/
theorem leastEdits_le_of_isEdit (h : IsEdit bs cs) (as : List Char) :
    leastEdits as cs ≤ leastEdits as bs + 1 := by
  cases h with
  | insert before c after =>
    exact leastEdits_append_right_le_of_forall before (leastEdits_cons_right_le c · after) as
  | delete before c after =>
    exact leastEdits_append_right_le_of_forall before (leastEdits_le_cons_right c · after) as
  | substitute before c d after =>
    exact leastEdits_append_right_le_of_forall before (leastEdits_cons_right_le_cons c d · after) as

@[simp]
theorem leastEdits_self (as : List Char) : leastEdits as as = 0 := by
  induction as with
  | nil => simp
  | cons a as ih => simp [leastEdits_cons_cons, ih]

/-- No sequence of edits is shorter than `leastEdits` counts. -/
theorem leastEdits_le (h : EditsTo n as bs) : leastEdits as bs ≤ n := by
  induction h with
  | refl as => simp
  | step _ hedit ih => exact (leastEdits_le_of_isEdit hedit _).trans (Nat.succ_le_succ ih)

end LowerBound

section Table

/-- Texts read backwards are as far apart. -/
theorem leastEdits_reverse (as bs : List Char) :
    leastEdits as.reverse bs.reverse = leastEdits as bs := by
  apply Nat.le_antisymm
  · exact leastEdits_le (editsTo_leastEdits as bs).reverse
  · simpa using leastEdits_le (editsTo_leastEdits as.reverse bs.reverse).reverse

/-- The least number of edits by what becomes of the last characters. -/
theorem leastEdits_concat_concat (a b : Char) (as bs : List Char) :
    leastEdits (as ++ [a]) (bs ++ [b]) =
      min (min (leastEdits as (bs ++ [b]) + 1) (leastEdits (as ++ [a]) bs + 1))
        (leastEdits as bs + if a = b then 0 else 1) := by
  have h := leastEdits_cons_cons a b as.reverse bs.reverse
  simpa only [← leastEdits_reverse as, ← leastEdits_reverse (as ++ [a]), List.reverse_concat]
    using h

/-- The least numbers of edits from `as` to `done` with one more character of a text behind it,
with two more, and so on. -/
def editsBehind (as done : List Char) : List Char → List Nat
  | [] => []
  | b :: bs => leastEdits as (done ++ [b]) :: editsBehind as (done ++ [b]) bs

/-- The row of the distance table that belongs to `as`. -/
def tableRow (as bs : List Char) : List Nat :=
  leastEdits as [] :: editsBehind as [] bs

/-- From the numbers of edits for `as`, the cells give those for `as` and one more character. -/
theorem distanceCells_editsBehind (a : Char) (as done bs : List Char) :
    distanceCells a (leastEdits (as ++ [a]) done) (leastEdits as done) bs
      (editsBehind as done bs) = editsBehind (as ++ [a]) done bs := by
  induction bs generalizing done with
  | nil => rfl
  | cons b bs ih =>
    simp only [editsBehind, distanceCells, ← leastEdits_concat_concat]
    rw [ih]

/-- One more character leads from the row of a text to the row of the longer text. -/
theorem distanceRow_tableRow (a : Char) (as bs : List Char) :
    distanceRow bs (tableRow as bs) a = tableRow (as ++ [a]) bs := by
  have h := distanceCells_editsBehind a as [] bs
  simp only [leastEdits_nil_right, List.length_append, List.length_singleton] at h
  simp [distanceRow, tableRow, h]

/-- The empty text is as many edits away from a text as that has characters. -/
theorem editsBehind_nil_left (done bs : List Char) :
    editsBehind [] done bs = List.range' (done.length + 1) bs.length := by
  induction bs generalizing done with
  | nil => rfl
  | cons b bs ih => simp [editsBehind, ih, List.range'_succ]

/-- The table starts with the row of the empty text. -/
theorem range_eq_tableRow (bs : List Char) : List.range (bs.length + 1) = tableRow [] bs := by
  simp [tableRow, editsBehind_nil_left, List.range_eq_range', List.range'_succ]

/-- After each beginning of a text, the table is at the row of that beginning. -/
theorem foldl_distanceRow (as bs : List Char) :
    as.foldl (distanceRow bs) (List.range (bs.length + 1)) = tableRow as bs := by
  induction as using List.reverseRecOn with
  | nil => exact range_eq_tableRow bs
  | append_singleton as a ih =>
    rw [List.foldl_concat, ih, distanceRow_tableRow]

theorem getLast?_editsBehind (as done bs : List Char) :
    (leastEdits as done :: editsBehind as done bs).getLast? =
      some (leastEdits as (done ++ bs)) := by
  induction bs generalizing done with
  | nil => simp [editsBehind]
  | cons b bs ih => simpa [editsBehind] using ih (done ++ [b])

/-- A row ends with the number of edits to the whole text. -/
theorem getLast?_tableRow (as bs : List Char) :
    (tableRow as bs).getLast? = some (leastEdits as bs) :=
  getLast?_editsBehind as [] bs

/-- The last cell of the table is the least number of edits. -/
theorem tableDistance_eq_leastEdits (as bs : List Char) :
    tableDistance as bs = leastEdits as bs := by
  rw [tableDistance, foldl_distanceRow, getLast?_tableRow, Option.getD_some]

/-- Where the table is not needed, the distance is the least number of edits as well. -/
theorem editDistance_eq_leastEdits (as bs : List Char) :
    editDistance as bs = leastEdits as bs := by
  unfold editDistance
  split_ifs with hsame has hbs
  · simp [hsame]
  · simp [List.isEmpty_iff.mp has]
  · simp [List.isEmpty_iff.mp hbs]
  · exact tableDistance_eq_leastEdits as bs

end Table

/-- As many edits as the distance says are enough. -/
theorem editsTo_editDistance (as bs : List Char) : EditsTo (editDistance as bs) as bs := by
  rw [editDistance_eq_leastEdits]
  exact editsTo_leastEdits as bs

/-- No sequence of edits is shorter than the distance says. -/
theorem editDistance_le (h : EditsTo n as bs) : editDistance as bs ≤ n := by
  rw [editDistance_eq_leastEdits]
  exact leastEdits_le h

/-- The distance is the same in both directions. -/
theorem editDistance_comm (as bs : List Char) : editDistance as bs = editDistance bs as :=
  Nat.le_antisymm (editDistance_le (editsTo_editDistance bs as).symm)
    (editDistance_le (editsTo_editDistance as bs).symm)

/-- A detour is never shorter. -/
theorem editDistance_triangle (as bs cs : List Char) :
    editDistance as cs ≤ editDistance as bs + editDistance bs cs :=
  editDistance_le ((editsTo_editDistance as bs).trans (editsTo_editDistance bs cs))

/-- Only equal texts have no distance. -/
theorem editDistance_eq_zero_iff (as bs : List Char) : editDistance as bs = 0 ↔ as = bs := by
  constructor
  · intro h
    have hedits := editsTo_editDistance as bs
    rw [h] at hedits
    exact hedits.eq_of_zero
  · intro h
    simp [editDistance, h]

/-- The distance table, with its early exits, computes the least number of insertions, deletions
and substitutions of single characters that turn one text into the other, which is a metric. -/
theorem editDistance_isLeast_and_metric (as bs cs : List Char) :
    IsLeast {n | EditsTo n as bs} (editDistance as bs) ∧
      editDistance as bs = editDistance bs as ∧
      editDistance as cs ≤ editDistance as bs + editDistance bs cs ∧
      (editDistance as bs = 0 ↔ as = bs) := by
  have hleast : IsLeast {n | EditsTo n as bs} (editDistance as bs) :=
    ⟨editsTo_editDistance as bs, fun _ => editDistance_le⟩
  exact ⟨hleast, editDistance_comm as bs, editDistance_triangle as bs cs,
    editDistance_eq_zero_iff as bs⟩

end BrickLint
