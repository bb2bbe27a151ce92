import BrickLint.Directive.Layout
import BrickLint.Proofs.Conditional.Siblings

/-!
# Branches around the lines of code

The path of a line of code is what the directives above it leave open, continuation lines apart.
Lines of code are numbered downward, so all paths of a source are moments of one sequence of
directives, in the order of the lines.
-/

namespace BrickLint

open Text

/-- The directives of some lines, in order. The flag tells that the line before them ends in a
backslash; continuation lines hold no directives. -/
def directivesOf (continued : Bool) : List (List Char) → List String
  | [] => []
  | line :: rest =>
    let others := directivesOf (endsInBackslash line) rest
    if continued || (strip line).head? != some '#' then others
    else ((parseDirective? (strip line)).map (·.name)).toList ++ others

/-- The directives of the first lines are the first directives. -/
theorem directivesOf_isPrefix (continued : Bool) (lines more : List (List Char)) :
    directivesOf continued lines <+: directivesOf continued (lines ++ more) := by
  induction lines generalizing continued with
  | nil => exact List.nil_prefix
  | cons line lines ih =>
    have hrest := ih (endsInBackslash line)
    simp only [directivesOf, List.cons_append]
    split
    · exact hrest
    · exact (List.prefix_append_right_inj _).mpr hrest

/-- A line that is no directive line and no continuation adds no directive. -/
theorem directivesOf_of_code {line : List Char} (hline : (strip line).head? ≠ some '#')
    (continued : Bool) (rest : List (List Char)) :
    directivesOf continued (line :: rest) = directivesOf (endsInBackslash line) rest := by
  simp [directivesOf, hline]

/-- A line of code stands under the branches that the directives above it leave open. -/
theorem path_of_mem_layoutFrom {conds : Conditionals} {continued : Bool} {number : Nat}
    {lines : List (List Char)} {code : CodeLine}
    (h : code ∈ (layoutFrom conds continued number lines).code) :
    ∃ above, code.number = number + above ∧
      code.path = (conds.follow (directivesOf continued (lines.take above))).path := by
  induction lines generalizing conds continued number with
  | nil => simp [layoutFrom] at h
  | cons line lines ih =>
    -- The line itself is followed by the lines of code below it, whose numbers count it as well.
    have hbelow : ∀ {conds' : Conditionals},
        code ∈ (layoutFrom conds' (endsInBackslash line) (number + 1) lines).code →
        (∀ rest, conds.follow (directivesOf continued (line :: rest)) =
          conds'.follow (directivesOf (endsInBackslash line) rest)) →
        ∃ above, code.number = number + above ∧ code.path =
          (conds.follow (directivesOf continued ((line :: lines).take above))).path := by
      intro conds' hcode hfollow
      obtain ⟨above, hnumber, hpath⟩ := ih hcode
      refine ⟨above + 1, by omega, ?_⟩
      rw [List.take_succ_cons, hfollow, hpath]
    unfold layoutFrom at h
    dsimp only at h
    split at h
    case isTrue hskipped =>
      refine hbelow h fun rest => ?_
      rcases Bool.or_eq_true_iff.mp hskipped with rfl | hblank
      · simp [directivesOf]
      · rw [directivesOf_of_code (by simp [List.isEmpty_iff.mp hblank])]
    case isFalse hkept =>
      simp only [Bool.or_eq_true, not_or, Bool.not_eq_true] at hkept
      obtain ⟨rfl, _⟩ := hkept
      split at h
      case isTrue hhash =>
        have hdirective : ∀ rest, directivesOf false (line :: rest) =
            ((parseDirective? (strip line)).map (·.name)).toList ++
              directivesOf (endsInBackslash line) rest := by
          intro rest
          simp [directivesOf, hhash]
        split at h
        case h_1 hnone =>
          refine hbelow h fun rest => ?_
          rw [hdirective, hnone]
          rfl
        case h_2 directive hsome =>
          have hcode : code ∈ (layoutFrom (conds.apply directive.name) (endsInBackslash line)
              (number + 1) lines).code := by
            split at h <;> exact h
          refine hbelow hcode fun rest => ?_
          rw [hdirective, hsome]
          rfl
      case isFalse hhash =>
        rcases List.mem_cons.mp h with rfl | h
        · exact ⟨0, rfl, rfl⟩
        · exact hbelow h fun rest => by rw [directivesOf_of_code hhash]

/-- Lines of code are numbered downward, from the number of the first line on. -/
theorem numbers_layoutFrom (conds : Conditionals) (continued : Bool) (number : Nat)
    (lines : List (List Char)) :
    (layoutFrom conds continued number lines).code.Pairwise (·.number < ·.number) := by
  induction lines generalizing conds continued number with
  | nil => exact List.Pairwise.nil
  | cons line lines ih =>
    unfold layoutFrom
    dsimp only
    split
    · exact ih _ _ _
    split
    · split
      · exact ih _ _ _
      · split <;> exact ih _ _ _
    · refine List.pairwise_cons.mpr ⟨fun code hcode => ?_, ih _ _ _⟩
      obtain ⟨above, hnumber, _⟩ := path_of_mem_layoutFrom hcode
      dsimp only
      omega

/-- Lines of code of a source have different numbers, in the order of the lines. -/
theorem numbers_layout (lines : List (List Char)) :
    (layout lines).code.Pairwise (·.number < ·.number) :=
  numbers_layoutFrom {} false 0 lines

/-- Of three lines of code in order, the outer two are in sibling branches only if the middle one is
in a sibling branch of one of them. -/
theorem inSiblingBranches_between {lines : List (List Char)} {a b c : CodeLine}
    (ha : a ∈ (layout lines).code) (hb : b ∈ (layout lines).code) (hc : c ∈ (layout lines).code)
    (hab : a.number ≤ b.number) (hbc : b.number ≤ c.number)
    (h : inSiblingBranches a.path c.path = true) :
    inSiblingBranches a.path b.path = true ∨ inSiblingBranches b.path c.path = true := by
  obtain ⟨i, hi, hapath⟩ := path_of_mem_layoutFrom ha
  obtain ⟨j, hj, hbpath⟩ := path_of_mem_layoutFrom hb
  obtain ⟨k, hk, hcpath⟩ := path_of_mem_layoutFrom hc
  have hbegins : ∀ {m n : Nat}, m ≤ n →
      directivesOf false (lines.take m) <+: directivesOf false (lines.take n) := by
    intro m n hmn
    obtain ⟨more, hmore⟩ : lines.take m <+: lines.take n := List.take_prefix_take_left hmn
    rw [← hmore]
    exact directivesOf_isPrefix false _ more
  rw [hapath, hcpath] at h
  rw [hapath, hbpath, hcpath]
  exact (Conditionals.later_of_isPrefix {} (hbegins (by omega))).inSiblingBranches_between
    (Conditionals.later_of_isPrefix {} (hbegins (by omega)))
    (Conditionals.later_of_isPrefix {} (hbegins (by omega)))
    (Conditionals.isNumbered_initial.follow _) h

end BrickLint
