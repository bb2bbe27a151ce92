import BrickLint.Proofs.Token
import BrickLint.Text.Lines
import BrickLint.Text.Position
import Mathlib.Data.List.Forall2
import Mathlib.Data.List.Infix

/-!
# Places in a text

A position names a character of a row. A pass that reads a text character by character and carries
the position along always knows the place of the next character. Scrubbing changes characters to
spaces and nothing else, so what stands at a place of the scrubbed text, and is no space, stands at
the same place of the source.
-/

namespace BrickLint.Text

/-- The character at a position. -/
def charAt? (text : List Char) (p : Position) : Option Char :=
  (rows text)[p.line]?.bind (·[p.column]?)

/-- The rest of a text from a position on. -/
def RestAt (text : List Char) (p : Position) (rest : List Char) : Prop :=
  ∃ before, before.length = p.column ∧
    (rows text).drop p.line = (rows rest).modifyHead (before ++ ·)

/-- The rows of a text that starts with a line feed. -/
theorem rows_newline (cs : List Char) : rows ('\n' :: cs) = [] :: rows cs := by
  rw [rows, List.splitOn_cons_eq_if_modifyHead, if_pos (by rfl), rows]

/-- The rows of a text that starts with another character. -/
theorem rows_cons {c : Char} (hc : c ≠ '\n') (cs : List Char) :
    rows (c :: cs) = (rows cs).modifyHead (c :: ·) := by
  rw [rows, List.splitOn_cons_eq_if_modifyHead, if_neg (by simpa using hc), rows]

/-- A text has a first row. -/
theorem exists_rows_eq_cons (text : List Char) : ∃ row rest, rows text = row :: rest :=
  List.exists_cons_of_ne_nil (List.splitOn_ne_nil _ _)

/-- No row holds a line feed. -/
theorem newline_not_mem_of_mem_rows {text row : List Char} (h : row ∈ rows text) :
    '\n' ∉ row := by
  induction text generalizing row with
  | nil =>
    obtain rfl : row = [] := by simpa [rows] using h
    exact List.not_mem_nil
  | cons c text ih =>
    by_cases hc : c = '\n'
    · rw [hc, rows_newline] at h
      rcases List.mem_cons.mp h with rfl | h
      · exact List.not_mem_nil
      · exact ih h
    · obtain ⟨first, rest, hrows⟩ := exists_rows_eq_cons text
      rw [rows_cons hc, hrows, List.modifyHead_cons] at h
      rw [hrows] at ih
      rcases List.mem_cons.mp h with rfl | h
      · exact List.not_mem_cons_of_ne_of_not_mem (Ne.symm hc) (ih List.mem_cons_self)
      · exact ih (List.mem_cons_of_mem _ h)

/-- All of a text follows its start. -/
theorem restAt_start (text : List Char) : RestAt text .start text := by
  obtain ⟨row, rest, hrows⟩ := exists_rows_eq_cons text
  exact ⟨[], rfl, by simp [hrows, Position.start]⟩

/-- Behind a character stands the rest of the text. -/
theorem RestAt.advance {text rest : List Char} {p : Position} {c : Char}
    (h : RestAt text p (c :: rest)) : RestAt text (p.advance c) rest := by
  obtain ⟨before, hlength, hrows⟩ := h
  by_cases hc : c = '\n'
  · subst hc
    obtain ⟨row, more, hrest⟩ := exists_rows_eq_cons rest
    refine ⟨[], rfl, ?_⟩
    rw [rows_newline, List.modifyHead_cons] at hrows
    simp [Position.advance, drop_add_one_of_drop_eq hrows, hrest]
  · refine ⟨before ++ [c], by simp [Position.advance, hc, hlength], ?_⟩
    rw [rows_cons hc] at hrows
    obtain ⟨row, more, hrest⟩ := exists_rows_eq_cons rest
    simpa [Position.advance, hc, hrest] using hrows

/-- The next character stands at the position. -/
theorem RestAt.charAt? {text rest : List Char} {p : Position} {c : Char}
    (h : RestAt text p (c :: rest)) (hc : c ≠ '\n') : charAt? text p = some c := by
  obtain ⟨before, hlength, hrows⟩ := h
  obtain ⟨row, more, hrest⟩ := exists_rows_eq_cons rest
  rw [rows_cons hc, hrest, List.modifyHead_cons, List.modifyHead_cons] at hrows
  rw [Text.charAt?, getElem?_of_drop_eq hrows, Option.bind_some, ← hlength]
  simp

/-- Where a character stands, there is a row. -/
theorem exists_row_of_charAt? {text : List Char} {p : Position} {c : Char}
    (h : charAt? text p = some c) :
    ∃ row, (rows text)[p.line]? = some row ∧ row[p.column]? = some c :=
  Option.bind_eq_some_iff.mp h

/-- A character is kept, or is no line feed and becomes a space. -/
def Blanked (c d : Char) : Prop :=
  d = c ∨ (d = ' ' ∧ c ≠ '\n')

/-- Blanking characters keeps the rows apart. -/
theorem forall₂_rows {source text : List Char} (h : List.Forall₂ Blanked source text) :
    List.Forall₂ (List.Forall₂ Blanked) (rows source) (rows text) := by
  induction h with
  | nil => exact .cons .nil .nil
  | @cons c d source text hcd _ ih =>
    by_cases hc : c = '\n'
    · have hd : d = '\n' := by
        rcases hcd with rfl | ⟨_, hne⟩
        · exact hc
        · exact absurd hc hne
      subst hc hd
      rw [rows_newline, rows_newline]
      exact .cons .nil ih
    · have hd : d ≠ '\n' := by
        rcases hcd with rfl | ⟨rfl, _⟩
        · exact hc
        · decide
      rw [rows_cons hc, rows_cons hd]
      generalize rows source = before at ih ⊢
      generalize rows text = after at ih ⊢
      cases ih with
      | nil => exact .nil
      | cons hrow hrest => exact .cons (.cons hcd hrow) hrest

/-- Related lists have related elements at the same places. -/
theorem exists_getElem?_of_forall₂ {α β : Type} {R : α → β → Prop} {l : List α} {k : List β}
    (h : List.Forall₂ R l k) {i : Nat} {b : β} (hb : k[i]? = some b) :
    ∃ a, l[i]? = some a ∧ R a b := by
  induction h generalizing i with
  | nil => simp at hb
  | @cons a _ _ _ hab _ ih =>
    cases i with
    | zero =>
      obtain rfl : _ = b := by simpa using hb
      exact ⟨a, rfl, hab⟩
    | succ i => simpa using ih (by simpa using hb)

/-- A character of a row that is no space was not blanked. -/
theorem getElem?_of_blanked {row code : List Char} (h : List.Forall₂ Blanked row code) {i : Nat}
    {c : Char} (hcode : code[i]? = some c) (hc : c ≠ ' ') : row[i]? = some c := by
  obtain ⟨d, hd, hblanked⟩ := exists_getElem?_of_forall₂ h hcode
  rcases hblanked with rfl | ⟨hspace, _⟩
  · exact hd
  · exact absurd hspace hc

/-- A character of a text that is no space was not blanked. -/
theorem charAt?_of_blanked {source text : List Char} (h : List.Forall₂ Blanked source text)
    {p : Position} {c : Char} (htext : charAt? text p = some c) (hc : c ≠ ' ') :
    charAt? source p = some c := by
  obtain ⟨code, hcode, hchar⟩ := exists_row_of_charAt? htext
  obtain ⟨row, hrow, hblanked⟩ := exists_getElem?_of_forall₂ (forall₂_rows h) hcode
  exact Option.bind_eq_some_iff.mpr ⟨row, hrow, getElem?_of_blanked hblanked hchar hc⟩

/-- A word without spaces at the start of a text was not blanked. -/
theorem prefix_of_blanked {source text word : List Char} (h : List.Forall₂ Blanked source text)
    (hword : word <+: text) (hspace : ' ' ∉ word) : word <+: source := by
  induction word generalizing source text with
  | nil => exact List.nil_prefix
  | cons c word ih =>
    cases h with
    | nil => simp at hword
    | @cons a b source text hab hrest =>
      obtain ⟨rfl, hshorter⟩ := List.cons_prefix_cons.mp hword
      rw [List.mem_cons, not_or] at hspace
      have hkept : a = c := by
        rcases hab with rfl | ⟨hblank, _⟩
        · rfl
        · exact absurd hblank.symm hspace.1
      exact List.cons_prefix_cons.mpr ⟨hkept.symm, ih hrest hshorter hspace.2⟩

/-- An identifier stands in one of several lines, at a column. -/
def NameAt (lines : List (List Char)) (name : String) (line column : Nat) : Prop :=
  isIdentifier name = true ∧
    ∃ row, lines[line]? = some row ∧ name.toList <+: row.drop column

/-- A row without its carriage return is a start of the row. -/
theorem dropReturn_isPrefix (row : List Char) : dropReturn row <+: row := by
  unfold dropReturn
  split
  · exact List.dropLast_prefix row
  · exact List.prefix_refl row

/-- The code rows are starts of the rows. -/
theorem exists_row_of_dropReturns {lines : List (List Char)} {n : Nat} {code : List Char}
    (h : (dropReturns lines)[n]? = some code) : ∃ row, lines[n]? = some row ∧ code <+: row := by
  fun_induction dropReturns lines generalizing n with
  | case1 => simp at h
  | case2 last => exact ⟨code, h, List.prefix_refl code⟩
  | case3 row next rest ih =>
    cases n with
    | zero =>
      obtain rfl : dropReturn row = code := by simpa using h
      exact ⟨row, rfl, dropReturn_isPrefix row⟩
    | succ n => simpa using ih (by simpa using h)

/-- A name of a code row stands in the row. -/
theorem NameAt.of_codeRows {text : List Char} {name : String} {line column : Nat}
    (h : NameAt (codeRows text) name line column) : NameAt (rows text) name line column := by
  obtain ⟨hname, code, hcode, hprefix⟩ := h
  obtain ⟨row, hrow, hstart⟩ := exists_row_of_dropReturns hcode
  exact ⟨hname, row, hrow, hprefix.trans (List.IsPrefix.drop hstart column)⟩

/-- A name was not blanked. -/
theorem NameAt.of_blanked {source text : List Char} {name : String} {line column : Nat}
    (h : List.Forall₂ Blanked source text) (hat : NameAt (rows text) name line column) :
    NameAt (rows source) name line column := by
  obtain ⟨hname, code, hcode, hprefix⟩ := hat
  obtain ⟨row, hrow, hblanked⟩ := exists_getElem?_of_forall₂ (forall₂_rows h) hcode
  have hspace : ' ' ∉ name.toList := fun hmem => by
    have := isIdentChar_of_mem hname hmem
    contradiction
  exact ⟨hname, row, hrow, prefix_of_blanked (List.forall₂_drop column hblanked) hprefix hspace⟩

end BrickLint.Text
