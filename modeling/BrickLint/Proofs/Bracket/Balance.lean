import BrickLint.Proofs.Bracket.Nesting
import Mathlib.Order.Bounds.Defs

/-!
# The bracket check decides nesting

The bracket check finds nothing exactly when the brackets of a text are well nested. Otherwise it
points at the first closing bracket up to which no text with well nested brackets starts like this
one, and when there is none, at the opening bracket behind which everything is well nested.
-/

namespace BrickLint

open Text

/-- Some text with well nested brackets starts like this. -/
def IsCompletable (text : List Char) : Prop :=
  ∃ rest, WellNested (bracketMarks (text ++ rest))

/-- A closing bracket stands at an offset, and no text with well nested brackets starts like this
one up to it. -/
structure IsFault (text : List Char) (offset : Nat) : Prop where
  /-- A closing bracket stands there. -/
  closer : ∃ bracket : Bracket, text[offset]? = some bracket.closer
  /-- It cannot be matched, whatever follows. -/
  stuck : ¬IsCompletable (text.take (offset + 1))

/-- An opening bracket stands at an offset, and the brackets behind it are well nested. -/
structure IsInnermostOpen (text : List Char) (offset : Nat) : Prop where
  /-- An opening bracket stands there. -/
  opener : ∃ bracket : Bracket, text[offset]? = some bracket.opener
  /-- Everything behind it is matched. -/
  behind : WellNested (bracketMarks (text.drop (offset + 1)))

/-- A finding is shown as an error at an offset of a text. -/
structure Finding.IsErrorAt (text : List Char) (offset : Nat) (f : Finding) : Prop where
  /-- It is an error. -/
  severity : f.toDiagnostic.severity = .error
  /-- It is shown at the position of the offset. -/
  position : f.toDiagnostic.position = positionAt text offset
  /-- Its line is the number of line feeds before the offset. -/
  line : f.toDiagnostic.position.line = (text.take offset).count '\n'
  /-- Its column is the number of characters between the last line feed and the offset. -/
  column : f.toDiagnostic.position.column =
    ((text.take offset).reverse.takeWhile (· != '\n')).length

/-- The position behind a text, in which line feeds are counted and columns start again at each of
them. -/
theorem foldl_advance_start (text : List Char) :
    text.foldl Position.advance .start =
      ⟨text.count '\n', (text.reverse.takeWhile (· != '\n')).length⟩ := by
  induction text using List.reverseRecOn with
  | nil => rfl
  | append_singleton text c ih =>
    by_cases hc : c = '\n'
    · simp [List.foldl_append, ih, Position.advance, hc]
    · simp [List.foldl_append, ih, Position.advance, hc]

/-- A finding at the position behind `before`, with an error as its cause, is an error there. -/
theorem Finding.isErrorAt_ofPosition {cause : Cause} (hcause : cause.severity = .error)
    (before rest : List Char) :
    (Finding.ofPosition cause (before.foldl Position.advance .start) 1).IsErrorAt (before ++ rest)
      before.length := by
  have hposition : (Finding.ofPosition cause
      (before.foldl Position.advance .start) 1).toDiagnostic.position =
        before.foldl Position.advance .start := rfl
  refine ⟨hcause, ?_, ?_, ?_⟩
  · rw [hposition, positionAt, List.take_left]
  · rw [hposition, foldl_advance_start, List.take_left]
  · rw [hposition, foldl_advance_start, List.take_left]

/-- The brackets that are open behind a text, innermost first: each stands where it was opened, and
between one and the next the brackets are well nested. -/
inductive OpenBehind : List OpenBracket → List Char → Prop
  /-- Nothing is open behind well nested brackets. -/
  | nil {seen : List Char} (hseen : WellNested (bracketMarks seen)) : OpenBehind [] seen
  /-- The innermost open bracket is followed by well nested ones. -/
  | cons (bracket : Bracket) {stack : List OpenBracket} {before inner : List Char}
      (hbefore : OpenBehind stack before) (hinner : WellNested (bracketMarks inner)) :
      OpenBehind (⟨bracket, before.foldl Position.advance .start⟩ :: stack)
        (before ++ bracket.opener :: inner)

namespace OpenBehind

variable {stack : List OpenBracket} {seen : List Char}

/-- Well nested brackets behind a text leave its open brackets alone. -/
theorem append (h : OpenBehind stack seen) {more : List Char}
    (hmore : WellNested (bracketMarks more)) : OpenBehind stack (seen ++ more) := by
  cases h with
  | nil hseen => exact .nil (by simpa using hseen.append hmore)
  | cons bracket hbefore hinner =>
    rw [List.append_assoc, List.cons_append]
    exact .cons bracket hbefore (by simpa using hinner.append hmore)

/-- An opening bracket is open behind itself. -/
theorem opener (h : OpenBehind stack seen) (bracket : Bracket) :
    OpenBehind (⟨bracket, seen.foldl Position.advance .start⟩ :: stack)
      (seen ++ [bracket.opener]) :=
  .cons bracket h .nil

/-- A closing bracket of the same kind closes the innermost open bracket. -/
theorem closer {top : OpenBracket} (h : OpenBehind (top :: stack) seen) :
    OpenBehind stack (seen ++ [top.bracket.closer]) := by
  cases h with
  | @cons bracket _ before inner hbefore hinner =>
    have hpair : WellNested (bracketMarks (bracket.opener :: inner ++ [bracket.closer])) := by
      have hmarks : bracketMarks (bracket.opener :: inner ++ [bracket.closer]) =
          .opens bracket :: (bracketMarks inner ++ .closes bracket :: []) := by
        simp
      rw [hmarks]
      exact .pair bracket hinner .nil
    simpa using hbefore.append hpair

/-- The open brackets are what following the marks leaves open. -/
theorem followMarks_eq (h : OpenBehind stack seen) :
    followMarks [] (bracketMarks seen) = some (stack.map (·.bracket)) := by
  induction h with
  | nil hseen => exact hseen.followMarks_eq []
  | cons bracket _ hinner ih => simp [followMarks_append, ih, followMarks, hinner.followMarks_eq]

/-- Closing the open brackets completes a text. -/
theorem isCompletable (h : OpenBehind stack seen) : IsCompletable seen := by
  induction stack generalizing seen with
  | nil =>
    cases h with
    | nil hseen => exact ⟨[], by simpa using hseen⟩
  | cons top stack ih =>
    obtain ⟨rest, hrest⟩ := ih h.closer
    exact ⟨top.bracket.closer :: rest, by simpa using hrest⟩

/-- Behind open brackets, a closing bracket that does not match the innermost one is a fault. -/
theorem not_isCompletable (h : OpenBehind stack seen) {bracket : Bracket}
    (hbracket : ∀ top ∈ stack.head?, top.bracket ≠ bracket) :
    ¬IsCompletable (seen ++ [bracket.closer]) := by
  rintro ⟨rest, hrest⟩
  have hread : followMarks [] (bracketMarks (seen ++ [bracket.closer])) = none := by
    rw [bracketMarks_append, followMarks_append, h.followMarks_eq, bracketMarks_closer]
    cases stack with
    | nil => rfl
    | cons top stack =>
      have hne : top.bracket ≠ bracket := hbracket top rfl
      simp [followMarks, hne]
  rw [bracketMarks_append] at hrest
  exact not_wellNested_of_followMarks hread _ hrest

end OpenBehind

/-- What the bracket check finds in a text. -/
inductive BalanceOutcome (text : List Char) : Option Finding → Prop
  /-- The brackets are well nested. -/
  | nested (hnested : WellNested (bracketMarks text)) : BalanceOutcome text none
  /-- A closing bracket does not match the innermost open one. -/
  | fault {before after : List Char} {bracket : Bracket} {stack : List OpenBracket} {f : Finding}
      (htext : text = before ++ bracket.closer :: after) (hopen : OpenBehind stack before)
      (hbracket : ∀ top ∈ stack.head?, top.bracket ≠ bracket)
      (hf : f.IsErrorAt text before.length) : BalanceOutcome text (some f)
  /-- An opening bracket is followed by well nested ones only. -/
  | unclosed {before inner : List Char} {bracket : Bracket} {stack : List OpenBracket}
      {f : Finding} (htext : text = before ++ bracket.opener :: inner)
      (hopen : OpenBehind stack before) (hinner : WellNested (bracketMarks inner))
      (hf : f.IsErrorAt text before.length) : BalanceOutcome text (some f)

/-- The outcome of the check on the rest of a text, of which `seen` has been read. -/
theorem balanceFrom_outcome {stack : List OpenBracket} {seen : List Char}
    (h : OpenBehind stack seen) (cs : List Char) :
    BalanceOutcome (seen ++ cs) (balanceFrom stack (seen.foldl Position.advance .start) cs) := by
  induction cs generalizing stack seen with
  | nil =>
    rw [List.append_nil]
    cases h with
    | nil hseen => exact .nested hseen
    | cons bracket hbefore hinner =>
      exact .unclosed rfl hbefore hinner (Finding.isErrorAt_ofPosition rfl _ _)
  | cons c cs ih =>
    have hseen : seen ++ c :: cs = seen ++ [c] ++ cs := by simp
    have hadvance : (seen.foldl Position.advance .start).advance c =
        (seen ++ [c]).foldl Position.advance .start := by simp
    cases hopener : Bracket.ofOpener? c with
    | some bracket =>
      obtain rfl := Bracket.opener_of_ofOpener? hopener
      simp only [balanceFrom, hopener]
      rw [hseen, hadvance]
      exact ih (h.opener bracket)
    | none =>
      cases hcloser : Bracket.ofCloser? c with
      | none =>
        have hother : bracketMarks [c] = [] := by
          simp [bracketMarks, BracketMark.ofChar?, hopener, hcloser]
        simp only [balanceFrom, hopener, hcloser]
        rw [hseen, hadvance]
        exact ih (h.append (hother ▸ .nil))
      | some bracket =>
        obtain rfl := Bracket.closer_of_ofCloser? hcloser
        simp only [balanceFrom, hopener, hcloser]
        cases stack with
        | nil => exact .fault rfl h (by simp) (Finding.isErrorAt_ofPosition rfl _ _)
        | cons top rest =>
          by_cases htop : top.bracket = bracket
          · obtain rfl := htop
            simp only [if_true]
            rw [hseen, hadvance]
            exact ih h.closer
          · simp only [htop, if_false]
            exact .fault rfl h (by simpa using htop) (Finding.isErrorAt_ofPosition rfl _ _)

/-- The outcome of the check. -/
theorem checkBalance_outcome (text : List Char) : BalanceOutcome text (checkBalance text) :=
  balanceFrom_outcome (show OpenBehind [] [] from .nil .nil) text

/-- Up to a place before which everything can be completed there is no fault. -/
theorem not_isFault_of_isCompletable {before rest : List Char} (h : IsCompletable before)
    {offset : Nat} (hoffset : offset < before.length) : ¬IsFault (before ++ rest) offset := by
  intro hfault
  obtain ⟨more, hmore⟩ := h
  refine hfault.stuck ⟨before.drop (offset + 1) ++ more, ?_⟩
  rwa [List.take_append_of_le_length (by omega), ← List.append_assoc, List.take_append_drop]

/-- No innermost open bracket stands behind another one. -/
theorem IsInnermostOpen.not_lt {text : List Char} {offset other : Nat}
    (h : IsInnermostOpen text offset) (hother : IsInnermostOpen text other) :
    ¬offset < other := by
  intro hlt
  obtain ⟨bracket, hbracket⟩ := hother.opener
  obtain ⟨hlength, hget⟩ := List.getElem?_eq_some_iff.mp hbracket
  -- What stands behind the first bracket ends in the second one and what stands behind that.
  obtain ⟨between, hbetween⟩ : ∃ between,
      text.drop (offset + 1) = between ++ bracket.opener :: text.drop (other + 1) := by
    refine ⟨(text.drop (offset + 1)).take (other - (offset + 1)), ?_⟩
    have hother : (text.drop (offset + 1)).drop (other - (offset + 1)) = text.drop other := by
      rw [List.drop_drop]
      congr 1
      omega
    rw [← hget, ← List.drop_eq_getElem_cons hlength, ← hother, List.take_append_drop]
  have hnested := h.behind
  rw [hbetween, bracketMarks_append, bracketMarks_opener] at hnested
  exact not_wellNested_of_opens hother.behind _ hnested

/-- There is at most one innermost open bracket. -/
theorem IsInnermostOpen.unique {text : List Char} {offset other : Nat}
    (h : IsInnermostOpen text offset) (hother : IsInnermostOpen text other) : other = offset := by
  have hbefore := h.not_lt hother
  have hbehind := hother.not_lt h
  omega

/-- The bracket check finds nothing exactly in texts with well nested brackets. Otherwise it finds
one error, at the first fault, or at the only innermost open bracket when there is no fault. -/
theorem checkBalance_decides (text : List Char) :
    (checkBalance text = none ↔ WellNested (bracketMarks text)) ∧
      (¬WellNested (bracketMarks text) → ∃ f offset, checkBalance text = some f ∧
        f.IsErrorAt text offset ∧
          (IsLeast {place | IsFault text place} offset ∨
            ((∀ place, ¬IsFault text place) ∧ IsInnermostOpen text offset ∧
              ∀ place, IsInnermostOpen text place → place = offset))) := by
  have houtcome := checkBalance_outcome text
  generalize checkBalance text = found at houtcome
  cases houtcome with
  | nested hnested => exact ⟨⟨fun _ => hnested, fun _ => rfl⟩, fun hnot => absurd hnested hnot⟩
  | @fault before after bracket stack f htext hopen hbracket hf =>
    subst htext
    have hsplit : before ++ bracket.closer :: after = before ++ [bracket.closer] ++ after := by simp
    have hstuck := hopen.not_isCompletable hbracket
    have hnot : ¬WellNested (bracketMarks (before ++ bracket.closer :: after)) :=
      fun hnested => hstuck ⟨after, hsplit ▸ hnested⟩
    refine ⟨⟨by simp, fun hnested => absurd hnested hnot⟩, fun _ => ?_⟩
    refine ⟨f, before.length, rfl, hf, Or.inl ⟨⟨⟨bracket, by simp⟩, ?_⟩, fun place hplace => ?_⟩⟩
    · rwa [hsplit, List.take_append_of_le_length (by simp), List.take_of_length_le (by simp)]
    · by_contra hlt
      exact not_isFault_of_isCompletable hopen.isCompletable (Nat.lt_of_not_le hlt) hplace
  | @unclosed before inner bracket stack f htext hopen hinner hf =>
    subst htext
    have hnot : ¬WellNested (bracketMarks (before ++ bracket.opener :: inner)) := by
      rw [bracketMarks_append, bracketMarks_opener]
      exact not_wellNested_of_opens hinner _
    have hcompletable := (OpenBehind.cons bracket hopen hinner).isCompletable
    have hinnermost : IsInnermostOpen (before ++ bracket.opener :: inner) before.length :=
      ⟨⟨bracket, by simp⟩, by simpa [List.drop_length_add_append] using hinner⟩
    refine ⟨⟨by simp, fun hnested => absurd hnested hnot⟩, fun _ => ?_⟩
    refine ⟨f, before.length, rfl, hf, Or.inr ⟨fun place hplace => ?_, hinnermost,
      fun place hplace => hinnermost.unique hplace⟩⟩
    obtain ⟨_, hcloser⟩ := hplace.closer
    have hlt := (List.getElem?_eq_some_iff.mp hcloser).1
    rw [← List.append_nil (before ++ bracket.opener :: inner)] at hplace
    exact not_isFault_of_isCompletable hcompletable hlt hplace

end BrickLint
