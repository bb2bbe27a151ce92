import BrickLint.Proofs.Anchor.Place

/-!
# Rows and visual lines

Positions count rows, and an editor shows visual lines. Every row starts a visual line, so there are
at least as many visual lines as rows, an empty last row apart. As long as the rows hold no other
line break than the carriage return of a two-character line end, the visual lines are the rows.
-/

namespace BrickLint.Text

/-- A text is one row, or its first row is followed by a line feed and the other rows. -/
theorem rows_cases {text row : List Char} {more : List (List Char)}
    (h : rows text = row :: more) :
    (text = row ∧ more = []) ∨ ∃ rest, text = row ++ '\n' :: rest ∧ rows rest = more := by
  induction text generalizing row with
  | nil =>
    obtain ⟨rfl, rfl⟩ : row = [] ∧ more = [] := by simpa [rows, eq_comm] using h
    exact Or.inl ⟨rfl, rfl⟩
  | cons c text ih =>
    by_cases hc : c = '\n'
    · subst hc
      rw [rows_newline] at h
      obtain ⟨rfl, rfl⟩ := List.cons.inj h
      exact Or.inr ⟨text, rfl, rfl⟩
    · obtain ⟨first, others, hrows⟩ := exists_rows_eq_cons text
      rw [rows_cons hc, hrows] at h
      obtain ⟨rfl, rfl⟩ := List.cons.inj h
      rcases ih hrows with ⟨rfl, hnone⟩ | ⟨rest, rfl, hrest⟩
      · exact Or.inl ⟨rfl, hnone⟩
      · exact Or.inr ⟨rest, rfl, hrest⟩

/-- A row that is shown as one line: its final carriage return apart, it holds no line break. -/
def IsPlainRow (row : List Char) : Prop :=
  ∀ c ∈ dropReturn row, isLineBreak c = false

instance (row : List Char) : Decidable (IsPlainRow row) :=
  List.decidableBAll (fun c => isLineBreak c = false) (dropReturn row)

/-- A text that is not empty has a visual line. -/
theorem visualLines_ne_nil {text : List Char} (h : text ≠ []) : visualLines text ≠ [] := by
  induction text with
  | nil => exact absurd rfl h
  | cons c text ih =>
    unfold visualLines
    split
    case isTrue hreturn =>
      refine ih ?_
      rintro rfl
      simp at hreturn
    case isFalse =>
      split
      · simp
      · cases visualLines text <;> simp [consToFirst]

/-- Putting a character in front changes the first line only. -/
theorem consToFirst_append {lines : List (List Char)} (h : lines ≠ []) (c : Char)
    (more : List (List Char)) : consToFirst c (lines ++ more) = consToFirst c lines ++ more := by
  obtain ⟨line, rest, rfl⟩ := List.exists_cons_of_ne_nil h
  rfl

/-- A line feed ends a visual line. -/
theorem visualLines_append_newline (row rest : List Char) :
    visualLines (row ++ '\n' :: rest) = visualLines (row ++ ['\n']) ++ visualLines rest := by
  induction row with
  | nil => rfl
  | cons c row ih =>
    have hhead : (row ++ '\n' :: rest).head? = (row ++ ['\n']).head? := by cases row <;> rfl
    rw [List.cons_append, List.cons_append, visualLines, visualLines, hhead, ih]
    split
    · rfl
    split
    · rfl
    · exact consToFirst_append (visualLines_ne_nil (by simp)) c _

/-- A row behind its first character, without its carriage return. -/
theorem dropReturn_cons {c : Char} {row : List Char} (h : c ≠ '\r' ∨ row ≠ []) :
    dropReturn (c :: row) = c :: dropReturn row := by
  cases row with
  | nil => simp [dropReturn, h.resolve_right (by simp)]
  | cons d row =>
    rw [dropReturn, dropReturn, List.getLast?_cons_cons]
    split <;> simp

/-- What follows the first character of a plain row is plain, and that character is no line
break. -/
theorem IsPlainRow.of_cons {c : Char} {row : List Char} (h : IsPlainRow (c :: row))
    (hmore : c ≠ '\r' ∨ row ≠ []) : isLineBreak c = false ∧ IsPlainRow row := by
  rw [IsPlainRow, dropReturn_cons hmore] at h
  exact ⟨h c List.mem_cons_self, fun d hd => h d (List.mem_cons_of_mem c hd)⟩

/-- A plain row and its line feed are one visual line. -/
theorem visualLines_plainRow {row : List Char} (h : IsPlainRow row) :
    visualLines (row ++ ['\n']) = [dropReturn row] := by
  induction row with
  | nil => rfl
  | cons c row ih =>
    by_cases hlast : c ≠ '\r' ∨ row ≠ []
    · obtain ⟨hc, hrow⟩ := h.of_cons hlast
      have hreturn : ¬(c = '\r' ∧ (row ++ ['\n']).head? = some '\n') := by
        rintro ⟨rfl, _⟩
        simp [isLineBreak] at hc
      rw [List.cons_append, visualLines, if_neg hreturn, if_neg (by simp [hc]), ih hrow,
        dropReturn_cons hlast]
      rfl
    · obtain ⟨rfl, rfl⟩ : c = '\r' ∧ row = [] := by simpa [not_or] using hlast
      rfl

/-- A plain row that ends its text is one visual line, unless it is empty. -/
theorem visualLines_lastRow {row : List Char} (h : IsPlainRow row) (hne : row ≠ []) :
    visualLines row = [dropReturn row] := by
  induction row with
  | nil => exact absurd rfl hne
  | cons c row ih =>
    by_cases hlast : c ≠ '\r' ∨ row ≠ []
    · obtain ⟨hc, hrow⟩ := h.of_cons hlast
      have hreturn : ¬(c = '\r' ∧ row.head? = some '\n') := by
        rintro ⟨rfl, _⟩
        simp [isLineBreak] at hc
      rw [visualLines, if_neg hreturn, if_neg (by simp [hc]), dropReturn_cons hlast]
      cases row with
      | nil => rfl
      | cons d row =>
        rw [ih hrow (by simp)]
        rfl
    · obtain ⟨rfl, rfl⟩ : c = '\r' ∧ row = [] := by simpa [not_or] using hlast
      rfl

/-- A row that an editor shows: it is not the empty rest behind the last line feed. -/
def IsShownRow (text : List Char) (number : Nat) : Prop :=
  ∃ row, (rows text)[number]? = some row ∧ (row ≠ [] ∨ number + 1 < (rows text).length)

/-- Up to some row, every row is shown as one line. -/
def PlainUpTo (text : List Char) (number : Nat) : Prop :=
  ∀ row ∈ (rows text).take (number + 1), IsPlainRow row

instance (text : List Char) (number : Nat) : Decidable (PlainUpTo text number) :=
  inferInstanceAs (Decidable (∀ row ∈ (rows text).take (number + 1), IsPlainRow row))

/-- A shown row that is not the first one is a shown row of the text behind the first line feed. -/
theorem IsShownRow.of_succ {text : List Char} {number : Nat} (h : IsShownRow text (number + 1)) :
    ∃ row rest, text = row ++ '\n' :: rest ∧ rows text = row :: rows rest ∧
      IsShownRow rest number := by
  obtain ⟨row, hrow, hshown⟩ := h
  obtain ⟨first, more, hrows⟩ := exists_rows_eq_cons text
  rw [hrows, List.getElem?_cons_succ] at hrow
  rcases rows_cases hrows with ⟨_, rfl⟩ | ⟨rest, rfl, rfl⟩
  · simp at hrow
  · refine ⟨first, rest, rfl, hrows, row, hrow, hshown.imp_right fun hlength => ?_⟩
    rw [hrows, List.length_cons] at hlength
    omega

/-- A text with a shown row is not empty. -/
theorem IsShownRow.ne_nil {text : List Char} {number : Nat} (h : IsShownRow text number) :
    text ≠ [] := by
  rintro rfl
  obtain ⟨row, hrow, hshown⟩ := h
  cases number <;> simp_all [rows, eq_comm]

/-- There are at least as many visual lines as shown rows. -/
theorem IsShownRow.lt_length_visualLines {text : List Char} {number : Nat}
    (h : IsShownRow text number) : number < (visualLines text).length := by
  induction number generalizing text with
  | zero => exact List.length_pos_iff.mpr (visualLines_ne_nil h.ne_nil)
  | succ number ih =>
    obtain ⟨row, rest, rfl, _, hrest⟩ := h.of_succ
    have hne : row ++ ['\n'] ≠ [] := by simp
    have hfirst := List.length_pos_iff.mpr (visualLines_ne_nil hne)
    have hlater := ih hrest
    rw [visualLines_append_newline, List.length_append]
    omega

/-- As long as the rows are plain, the visual lines are the rows. -/
theorem IsShownRow.getElem?_visualLines {text : List Char} {number : Nat}
    (h : IsShownRow text number) (hplain : PlainUpTo text number) :
    (visualLines text)[number]? = (rows text)[number]?.map dropReturn := by
  induction number generalizing text with
  | zero =>
    obtain ⟨row, more, hrows⟩ := exists_rows_eq_cons text
    have hrow : IsPlainRow row := hplain row (by simp [hrows])
    rw [hrows, List.getElem?_cons_zero, Option.map_some]
    rcases rows_cases hrows with ⟨rfl, _⟩ | ⟨rest, rfl, _⟩
    · rw [visualLines_lastRow hrow h.ne_nil, List.getElem?_cons_zero]
    · rw [visualLines_append_newline, visualLines_plainRow hrow]
      rfl
  | succ number ih =>
    obtain ⟨row, rest, htext, hrows, hrest⟩ := h.of_succ
    rw [PlainUpTo, hrows, List.take_succ_cons] at hplain
    obtain ⟨hrow, hlater⟩ := List.forall_mem_cons.mp hplain
    rw [hrows, htext, visualLines_append_newline, visualLines_plainRow hrow,
      List.singleton_append, List.getElem?_cons_succ, List.getElem?_cons_succ, ih hrest hlater]

end BrickLint.Text
