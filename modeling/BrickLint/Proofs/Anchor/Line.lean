import BrickLint.Proofs.Anchor.Mark
import BrickLint.Statement

/-!
# Findings about a line

The line checks look at each row of the source together with its scrubbed copy, both without the
carriage returns at their end. What they report lies in the row.
-/

namespace BrickLint

open Text

/-- What a finding of the line checks says about its row, the length of rows being limited. -/
inductive Finding.IsInRow (limit : Int) (row : List Char) (line : Nat) : Finding → Prop
  /-- Two equals signs stand in the row, with one character between them. -/
  | doubledEquals {column : Nat} (hfirst : row[column]? = some '=')
      (hsecond : row[column + 2]? = some '=') :
      IsInRow limit row line ⟨.doubledEquals, line, column, 3⟩
  /-- The statement ends in the row. -/
  | missingSemicolon {column : Nat} (hcolumn : column ≤ row.length) :
      IsInRow limit row line ⟨.missingSemicolon, line, column, 1⟩
  /-- The row, without carriage returns, goes beyond the limit. -/
  | lineTooLong (hlimit : limit < (dropAllReturns row).length) :
      IsInRow limit row line
        ⟨.lineTooLong limit, line, limit, (dropAllReturns row).length - limit⟩
  /-- The indentation is the start of the row. -/
  | mixedIndentation (length : Int) : IsInRow limit row line ⟨.mixedIndentation, line, 0, length⟩

/-- Dropping an end of a text leaves a start of it. -/
theorem dropEndWhile_isPrefix {α : Type} (p : α → Bool) (l : List α) : dropEndWhile p l <+: l := by
  have hsuffix : l.reverse.dropWhile p <:+ l.reverse := List.dropWhile_suffix p
  rw [dropEndWhile, ← List.reverse_suffix, List.reverse_reverse]
  exact hsuffix

/-- The column of a doubled equals sign is the column of its first half. -/
theorem getElem?_of_doubledEquals? {code : List Char} {column : Nat}
    (h : doubledEquals? code = some column) :
    code[column]? = some '=' ∧ code[column + 2]? = some '=' := by
  induction code generalizing column with
  | nil => simp [doubledEquals?] at h
  | cons c cs ih =>
    unfold doubledEquals? at h
    split at h
    case isTrue hc =>
      obtain rfl := Option.some.inj h
      refine ⟨by simp [hc.1], ?_⟩
      have hsecond := hc.2.2
      rw [List.head?_eq_getElem?, List.getElem?_tail] at hsecond
      simpa using hsecond
    case isFalse =>
      obtain ⟨column, hcolumn, rfl⟩ := Option.map_eq_some_iff.mp h
      simpa using ih hcolumn

/-- What stands in a start of a text stands in the text. -/
theorem getElem?_of_isPrefix {α : Type} {l k : List α} (h : l <+: k) {i : Nat} {a : α}
    (ha : l[i]? = some a) : k[i]? = some a := by
  obtain ⟨hi, rfl⟩ := List.getElem?_eq_some_iff.mp ha
  exact List.prefix_iff_getElem?.mp h i hi

/-- Findings about the style of a row lie in the row. -/
theorem isInRow_of_mem_styleFindings {limit : Int} {line : Nat} {row : List Char} {f : Finding}
    (h : f ∈ styleFindings limit line (dropAllReturns row)) : f.IsInRow limit row line := by
  unfold styleFindings at h
  dsimp only at h
  rcases List.mem_append.mp h with hlong | hindent
  · split at hlong
    case isTrue hlimit =>
      obtain rfl := List.mem_singleton.mp hlong
      exact .lineTooLong hlimit
    case isFalse => simp at hlong
  · split at hindent
    · obtain rfl := List.mem_singleton.mp hindent
      exact .mixedIndentation _
    · simp at hindent

/-- Findings about the code of a row lie in the row. -/
theorem isInRow_of_mem_codeFindings {config : Config} {limit : Int} {s : LineState} {line : Nat}
    {row code : List Char} (hblanked : List.Forall₂ Blanked row code) {f : Finding}
    (h : f ∈ codeFindings config s line (dropAllReturns code)) : f.IsInRow limit row line := by
  have hprefix : dropAllReturns code <+: code := dropEndWhile_isPrefix _ code
  rcases List.mem_append.mp h with hdoubled | hmissing
  · obtain ⟨_, hfound, rfl⟩ := Option.map_eq_some_iff.mp (Option.mem_toList.mp hdoubled)
    obtain ⟨column, hcolumn, hcast⟩ := Option.bind_eq_some_iff.mp hfound
    obtain rfl := Option.some.inj hcast
    obtain ⟨hfirst, hsecond⟩ := getElem?_of_doubledEquals? hcolumn
    have hspace : '=' ≠ ' ' := by decide
    exact .doubledEquals
      (getElem?_of_blanked hblanked (getElem?_of_isPrefix hprefix hfirst) hspace)
      (getElem?_of_blanked hblanked (getElem?_of_isPrefix hprefix hsecond) hspace)
  · split at hmissing
    · obtain rfl := List.mem_singleton.mp hmissing
      apply Finding.IsInRow.missingSemicolon
      calc (stripEnd (dropAllReturns code)).length
          ≤ (dropAllReturns code).length := (dropEndWhile_isPrefix _ _).length_le
        _ ≤ code.length := hprefix.length_le
        _ = row.length := hblanked.length_eq.symm
    · simp at hmissing

/-- Findings about several rows lie in these rows. -/
theorem isInRow_of_mem_lineFindingsFrom {config : Config} {lines : List (List Char)} {s : LineState}
    {line : Nat} {pairs : List (List Char × List Char)}
    (hlines : lines.drop line = pairs.map Prod.fst)
    (hblanked : ∀ pair ∈ pairs, List.Forall₂ Blanked pair.1 pair.2) {f : Finding}
    (h : f ∈ lineFindingsFrom config s line pairs) :
    ∃ n row, lines[n]? = some row ∧ f.IsInRow config.maxLineLength row n := by
  induction pairs generalizing s line with
  | nil => simp [lineFindingsFrom] at h
  | cons pair pairs ih =>
    obtain ⟨raw, code⟩ := pair
    obtain ⟨hpair, hpairs⟩ := List.forall_mem_cons.mp hblanked
    have hrow := getElem?_of_drop_eq hlines
    simp only [lineFindingsFrom, List.mem_append] at h
    rcases h with (hstyle | hcode) | hlater
    · split at hstyle
      · exact ⟨line, raw, hrow, isInRow_of_mem_styleFindings hstyle⟩
      · simp at hstyle
    · split at hcode
      · simp at hcode
      · exact ⟨line, raw, hrow, isInRow_of_mem_codeFindings hpair hcode⟩
    · exact ih (drop_add_one_of_drop_eq hlines) hpairs hlater

/-- Findings about the lines of a source lie in its rows. -/
theorem isInRow_of_mem_lineFindings {config : Config} {source : List Char} {f : Finding}
    (h : f ∈ lineFindings config source (scan source)) :
    ∃ n row, (rows source)[n]? = some row ∧ f.IsInRow config.maxLineLength row n := by
  have hrows := forall₂_rows (forall₂_scan source)
  refine isInRow_of_mem_lineFindingsFrom ?_ (fun pair hpair => ?_) h
  · rw [List.drop_zero, List.map_fst_zip (Nat.le_of_eq hrows.length_eq)]
  · exact List.forall₂_zip hrows hpair

end BrickLint
