import BrickLint.Directive
import BrickLint.Proofs.HeaderTokens
import BrickLint.Text.Lines

/-!
# Numbers of expanded lines

An expanded text is numbered by a counter that line markers reset. Here the number of a line is read
off the text at once: it depends on the last line marker in front of the line and on the distance to
it.
-/

namespace BrickLint

open Text

/-- A nonempty run of characters with a property. -/
def IsRunOf (p : Char → Bool) (cs : List Char) : Prop :=
  cs ≠ [] ∧ ∀ c ∈ cs, p c = true

/-- The text of a line marker: the word, the digits of a number and a name in quotes, with blanks
between them. Anything may follow. -/
def IsLineMarker (digits line : List Char) : Prop :=
  ∃ gap behind name rest : List Char,
    line = "#line".toList ++ (gap ++ (digits ++ (behind ++ '"' :: (name ++ '"' :: rest)))) ∧
      IsRunOf isBlank gap ∧ IsRunOf isDigitChar digits ∧ IsRunOf isBlank behind ∧
      name ≠ [] ∧ '"' ∉ name

/-- No blank is a digit. -/
theorem isDigitChar_of_isBlank {c : Char} (h : isBlank c = true) : isDigitChar c = false := by
  have hapart : ∀ least ∈ digitZeros, ∀ interval ∈ blankIntervals,
      interval.2 < least ∨ least + 9 < interval.1 := by decide
  rw [isBlank, inIntervals, List.any_eq_true] at h
  obtain ⟨interval, hinterval, hcode⟩ := h
  simp only [Bool.and_eq_true, decide_eq_true_eq] at hcode
  rw [isDigitChar, digitValue?, Option.isSome_map, ← Bool.not_eq_true, List.find?_isSome]
  rintro ⟨least, hleast, hvalue⟩
  simp only [Bool.and_eq_true, decide_eq_true_eq] at hvalue
  have := hapart least hleast interval hinterval
  omega

/-- The rest behind a run of blanks starts with no blank. -/
theorem afterBlanks?_eq_some_iff {cs rest : List Char} :
    afterBlanks? cs = some rest ↔
      ∃ gap, cs = gap ++ rest ∧ IsRunOf isBlank gap ∧ rest.head?.any isBlank = false := by
  constructor
  · intro h
    rw [afterBlanks?] at h
    split at h
    case isTrue hhead =>
      obtain rfl := Option.some.inj h
      refine ⟨cs.takeWhile isBlank, List.takeWhile_append_dropWhile.symm, ⟨?_, ?_⟩,
        head?_stripStart cs⟩
      · cases cs with
        | nil => simp at hhead
        | cons c cs => simp_all
      · exact fun c hc => List.all_eq_true.mp List.all_takeWhile c hc
    case isFalse => simp at h
  · rintro ⟨gap, rfl, ⟨hne, hgap⟩, hrest⟩
    obtain ⟨c, gap, rfl⟩ := List.exists_cons_of_ne_nil hne
    have hc : isBlank c = true := hgap c List.mem_cons_self
    rw [afterBlanks?, if_pos (by simpa using hc), stripStart, List.dropWhile_append_of_pos hgap]
    exact congrArg some (stripStart_eq_self hrest)

/-- Behind the word of a line marker stands what stands behind the blanks there. -/
theorem afterSeparateWord?_line_eq_some_iff {line rest : List Char} :
    afterSeparateWord? ["#line"] line = some rest ↔
      ∃ gap, line = "#line".toList ++ (gap ++ rest) ∧ IsRunOf isBlank gap ∧
        rest.head?.any isBlank = false := by
  have hword : ∀ cs, afterWord? ["#line"] line = some cs ↔ line = "#line".toList ++ cs := by
    intro cs
    rw [afterWord?, List.findSome?_singleton, isPrefixOf?_eq_some_iff]
  simp only [afterSeparateWord?, Option.bind_eq_some_iff, hword, afterBlanks?_eq_some_iff]
  constructor
  · rintro ⟨cs, rfl, gap, rfl, hgap, hrest⟩
    exact ⟨gap, rfl, hgap, hrest⟩
  · rintro ⟨gap, rfl, hgap, hrest⟩
    exact ⟨gap ++ rest, rfl, gap, rfl, hgap, hrest⟩

/-- A line whose number is read is a line marker. -/
theorem isLineMarker_of_lineMarkerDigits? {line digits : List Char}
    (h : lineMarkerDigits? line = some digits) : IsLineMarker digits line := by
  simp only [lineMarkerDigits?, Option.bind_eq_bind, Option.bind_eq_some_iff,
    afterSeparateWord?_line_eq_some_iff, afterBlanks?_eq_some_iff, afterChar?_eq_some_iff] at h
  obtain ⟨cs, ⟨gap, rfl, hgap, _⟩, behind, ⟨between, hbetween, hrun, _⟩, name, rfl, h⟩ := h
  split at h
  · simp at h
  case isFalse hvalid =>
    obtain rfl := Option.some.inj h
    simp only [Bool.or_eq_true, List.isEmpty_iff, beq_iff_eq, Bool.not_eq_true',
      not_or, Bool.not_eq_false, List.contains_eq_mem, decide_eq_true_eq] at hvalid
    obtain ⟨⟨hdigits, hname⟩, hquote⟩ := hvalid
    obtain ⟨inside, rest, rfl, hinside⟩ := List.eq_append_cons_of_mem hquote
    refine ⟨gap, between, inside, rest, ?_, hgap, ⟨hdigits, ?_⟩, hrun, ?_, hinside⟩
    · rw [← hbetween, List.takeWhile_append_dropWhile]
    · exact fun c hc => List.all_eq_true.mp List.all_takeWhile c hc
    · rintro rfl
      simp at hname

/-- A run of digits does not start with a blank. -/
theorem IsRunOf.head?_any_isBlank {digits : List Char} (h : IsRunOf isDigitChar digits)
    (rest : List Char) : (digits ++ rest).head?.any isBlank = false := by
  obtain ⟨hne, hdigits⟩ := h
  obtain ⟨digit, digits, rfl⟩ := List.exists_cons_of_ne_nil hne
  have hdigit : isDigitChar digit = true := hdigits digit List.mem_cons_self
  by_contra hcontra
  have hblank : isBlank digit = true := by simpa using hcontra
  simp [isDigitChar_of_isBlank hblank] at hdigit

/-- A run of blanks does not start with a digit. -/
theorem IsRunOf.head?_any_isDigitChar {blanks : List Char} (h : IsRunOf isBlank blanks)
    (rest : List Char) : (blanks ++ rest).head?.any isDigitChar = false := by
  obtain ⟨hne, hblanks⟩ := h
  obtain ⟨blank, blanks, rfl⟩ := List.exists_cons_of_ne_nil hne
  simpa using isDigitChar_of_isBlank (hblanks blank List.mem_cons_self)

/-- The number of a line marker is read from its line. -/
theorem IsLineMarker.lineMarkerDigits?_eq {line digits : List Char} (h : IsLineMarker digits line) :
    lineMarkerDigits? line = some digits := by
  obtain ⟨gap, behind, name, rest, rfl, hgap, hdigits, hbehind, hname, hquote⟩ := h
  have hword := afterSeparateWord?_line_eq_some_iff.mpr
    ⟨gap, rfl, hgap, hdigits.head?_any_isBlank (behind ++ '"' :: (name ++ '"' :: rest))⟩
  have hstop := hbehind.head?_any_isDigitChar ('"' :: (name ++ '"' :: rest))
  have htake := takeWhile_append_of_stop hdigits.2 hstop
  have hdrop : (digits ++ (behind ++ '"' :: (name ++ '"' :: rest))).dropWhile isDigitChar =
      behind ++ '"' :: (name ++ '"' :: rest) := by
    have hsplit := List.takeWhile_append_dropWhile
      (p := isDigitChar) (l := digits ++ (behind ++ '"' :: (name ++ '"' :: rest)))
    rw [htake] at hsplit
    exact List.append_cancel_left hsplit
  have hbetween := afterBlanks?_eq_some_iff.mpr
    ⟨behind, rfl, hbehind, show ('"' :: (name ++ '"' :: rest)).head?.any isBlank = false from rfl⟩
  obtain ⟨c, name, rfl⟩ := List.exists_cons_of_ne_nil hname
  have hc : c ≠ '"' := fun h => hquote (h ▸ List.mem_cons_self)
  simp only [lineMarkerDigits?, Option.bind_eq_bind, hword, Option.bind_some, htake, hdrop,
    hbetween, afterChar?, if_true]
  simp [hdigits.1, hc]

/-- The digits of a line number are read from the lines that are line markers. -/
theorem lineMarkerDigits?_eq_some_iff {line digits : List Char} :
    lineMarkerDigits? line = some digits ↔ IsLineMarker digits line :=
  ⟨isLineMarker_of_lineMarkerDigits?, IsLineMarker.lineMarkerDigits?_eq⟩

/-- What stands behind a line marker does not matter. -/
theorem IsLineMarker.append {digits line : List Char} (h : IsLineMarker digits line)
    (more : List Char) : IsLineMarker digits (line ++ more) := by
  obtain ⟨gap, behind, name, rest, rfl, hparts⟩ := h
  exact ⟨gap, behind, name, rest ++ more, by simp, hparts⟩

/-- A final carriage return belongs to no line marker. -/
theorem IsLineMarker.of_append_return {digits line : List Char}
    (h : IsLineMarker digits (line ++ ['\r'])) : IsLineMarker digits line := by
  obtain ⟨gap, behind, name, rest, hline, hparts⟩ := h
  rcases List.eq_nil_or_concat rest with rfl | ⟨init, last, rfl⟩
  · have hsplit : line ++ ['\r'] = ("#line".toList ++
        (gap ++ (digits ++ (behind ++ '"' :: name)))) ++ ['"'] := by
      simpa using hline
    exact absurd (List.append_inj' hsplit rfl).2 (by decide)
  · refine ⟨gap, behind, name, init, ?_, hparts⟩
    have hsplit : line ++ ['\r'] = ("#line".toList ++
        (gap ++ (digits ++ (behind ++ '"' :: (name ++ '"' :: init))))) ++ [last] := by
      simpa using hline
    exact (List.append_inj' hsplit rfl).1

/-- A final carriage return does not change what a line announces. -/
theorem lineMarker?_dropReturn (row : List Char) :
    lineMarker? (dropReturn row) = lineMarker? row := by
  rw [lineMarker?, lineMarker?]
  congr 1
  ext1 digits
  rw [lineMarkerDigits?_eq_some_iff, lineMarkerDigits?_eq_some_iff, dropReturn]
  split
  case isTrue hlast =>
    obtain ⟨init, rfl⟩ := List.getLast?_eq_some_iff.mp hlast
    rw [List.dropLast_concat]
    exact ⟨fun h => h.append ['\r'], fun h => h.of_append_return⟩
  case isFalse => rfl

/-- The last line marker in front of a line: its place and the number that it announces. -/
def lastMarker? (lines : List (List Char)) : Nat → Option (Nat × Nat)
  | 0 => none
  | place + 1 =>
    match lines[place]?.bind lineMarker? with
    | some next => some (place, next)
    | none => lastMarker? lines place

/-- The number of a line, the first of which has a number too. A line marker has the number before
the one that it announces, and at least one. The other lines are counted from the last line marker
in front of them, or else from the first line. -/
def originFrom (first : Nat) (lines : List (List Char)) (place : Nat) : Nat :=
  match lines[place]?.bind lineMarker? with
  | some next => max 1 (next - 1)
  | none =>
    match lastMarker? lines place with
    | some (marker, next) => next + (place - marker - 1)
    | none => first + place

/-- The number of the line of the source that a line comes from. -/
def originLine (lines : List (List Char)) (place : Nat) : Nat :=
  originFrom 1 lines place

/-- The last line marker is one, and none stands between it and the line. -/
theorem lastMarker?_eq_some_iff {lines : List (List Char)} {place marker next : Nat} :
    lastMarker? lines place = some (marker, next) ↔
      marker < place ∧ lines[marker]?.bind lineMarker? = some next ∧
        ∀ between, marker < between → between < place →
          lines[between]?.bind lineMarker? = none := by
  induction place with
  | zero => simp [lastMarker?]
  | succ place ih =>
    rw [lastMarker?]
    cases hplace : lines[place]?.bind lineMarker? with
    | some found =>
      constructor
      · intro h
        obtain ⟨rfl, rfl⟩ : place = marker ∧ found = next := by simpa using h
        exact ⟨Nat.lt_succ_self _, hplace, fun between _ _ => by omega⟩
      · rintro ⟨hlt, hmarker, hnone⟩
        obtain rfl : marker = place := by
          by_contra hne
          have hbetween := hnone place (by omega) (Nat.lt_succ_self _)
          simp [hplace] at hbetween
        simp [Option.some.inj (hplace.symm.trans hmarker)]
    | none =>
      rw [ih]
      constructor
      · rintro ⟨hlt, hmarker, hnone⟩
        refine ⟨by omega, hmarker, fun between hleft hright => ?_⟩
        rcases Nat.lt_succ_iff_lt_or_eq.mp hright with hlater | rfl
        · exact hnone between hleft hlater
        · exact hplace
      · rintro ⟨hlt, hmarker, hnone⟩
        have hne : marker ≠ place := by
          rintro rfl
          simp [hplace] at hmarker
        exact ⟨by omega, hmarker, fun between hleft hright => hnone between hleft (by omega)⟩

/-- Behind a further line at the front, its own marker is the last one when there is no other. -/
theorem lastMarker?_cons (line : List Char) (lines : List (List Char)) (place : Nat) :
    lastMarker? (line :: lines) (place + 1) =
      ((lastMarker? lines place).map fun marker => (marker.1 + 1, marker.2)).or
        ((lineMarker? line).map fun next => (0, next)) := by
  induction place with
  | zero =>
    rw [lastMarker?.eq_2, List.getElem?_cons_zero, Option.bind_some]
    cases lineMarker? line <;> rfl
  | succ place ih =>
    rw [lastMarker?, List.getElem?_cons_succ, ih, lastMarker?.eq_2 lines]
    cases lines[place]?.bind lineMarker? <;> rfl

/-- The counter gives every line the number that is read off the text. -/
theorem getElem?_lineMapFrom (current : Nat) (lines : List (List Char)) (place : Nat) :
    (lineMapFrom current lines)[place]? =
      lines[place]?.map fun _ => originFrom current lines place := by
  induction lines generalizing current place with
  | nil => rfl
  | cons line lines ih =>
    cases place with
    | zero =>
      rw [lineMapFrom, originFrom, List.getElem?_cons_zero, Option.bind_some]
      cases lineMarker? line <;> rfl
    | succ place =>
      have hbehind : ∀ next, (lineMarker? line).elim (current + 1) id = next →
          originFrom next lines place = originFrom current (line :: lines) (place + 1) := by
        rintro next rfl
        rw [originFrom, originFrom, List.getElem?_cons_succ, lastMarker?_cons]
        cases lines[place]?.bind lineMarker? with
        | some => rfl
        | none =>
          cases lastMarker? lines place with
          | some marker => simp
          | none =>
            cases lineMarker? line with
            | some => simp
            | none =>
              simp
              omega
      rw [lineMapFrom]
      cases hmarker : lineMarker? line with
      | some next =>
        rw [List.getElem?_cons_succ, List.getElem?_cons_succ, ih, hbehind next (by simp [hmarker])]
      | none =>
        rw [List.getElem?_cons_succ, List.getElem?_cons_succ, ih, hbehind _ (by simp [hmarker])]

/-- The number of a line depends on the line markers up to it. -/
theorem originLine_congr {lines lines' : List (List Char)} {place : Nat}
    (h : ∀ n ≤ place, lines[n]?.bind lineMarker? = lines'[n]?.bind lineMarker?) :
    originLine lines place = originLine lines' place := by
  have hlast : ∀ n ≤ place, lastMarker? lines n = lastMarker? lines' n := by
    intro n hn
    induction n with
    | zero => rfl
    | succ n ih => rw [lastMarker?, lastMarker?, h n (by omega), ih (by omega)]
  rw [originLine, originLine, originFrom, originFrom, h place le_rfl, hlast place le_rfl]

end BrickLint
