import BrickLint.Proofs.Dialect.Mask
import BrickLint.Proofs.Dialect.StandIn
import BrickLint.Proofs.Scrub.Scan

/-!
# Edits of a source

What C does not have is looked for in the scrubbed text of a source, and every character of the
source is edited accordingly: it may get a stand-in, and it may be blanked. Stand-ins take the place
of words, so no character outside code gets one.
-/

namespace BrickLint.Dialect

open Text

/-- What becomes of a character: its stand-in if it has one, and whether it is blanked. -/
abbrev Edit :=
  Option Char × Bool

/-- What becomes of the characters of a scrubbed text. -/
def edits (text : List Char) : List Edit :=
  (keywordOverlay false [] text).zip (blankMask text)

/-- A text with its characters edited. -/
def applyEdits (edits : List Edit) (text : List Char) : List Char :=
  List.zipWith (fun c edit => replaceChar c edit.1 edit.2) text edits

/-- A source is mapped by the edits of its scrubbed text. -/
theorem toC_eq (source : List Char) : toC source = applyEdits (edits (scrub source)) source :=
  rfl

/-- Edits fit a text when stand-ins take the place of words. -/
structure Fits (text : List Char) (edits : List Edit) : Prop where
  /-- Every character has an edit. -/
  length_eq : edits.length = text.length
  /-- Stand-ins take the place of words, also behind what stands in front of the text. -/
  standIns : ∃ previous : Char × Option Char,
    List.IsChain StandsInWord (previous :: text.zip (edits.map Prod.fst))

/-- The edits of a text fit it. -/
theorem fits_edits (text : List Char) : Fits text (edits text) where
  length_eq := by simp [edits, length_keywordOverlay, length_blankMask]
  standIns := by
    have hoverlay : (edits text).map Prod.fst = keywordOverlay false [] text :=
      List.map_fst_zip (by simp [length_keywordOverlay, length_blankMask])
    rw [hoverlay]
    exact ⟨(' ', none), isChain_keywordOverlay (Nat.zero_le _) (by simp) fun h => absurd rfl h⟩

/-- The edits of the rest of a text fit the rest. -/
theorem Fits.drop {front text : List Char} {edits : List Edit} (h : Fits (front ++ text) edits) :
    Fits text (edits.drop front.length) where
  length_eq := by simp [h.length_eq]
  standIns := by
    obtain ⟨previous, hchain⟩ := h.standIns
    have hlength : front.length = ((edits.take front.length).map Prod.fst).length := by
      simp [h.length_eq]
    rw [← List.take_append_drop front.length edits, List.map_append, List.zip_append hlength,
      ← List.cons_append] at hchain
    rcases List.eq_nil_or_concat (previous :: front.zip ((edits.take front.length).map Prod.fst))
      with hnil | ⟨init, last, hsplit⟩
    · simp at hnil
    · rw [hsplit, List.concat_eq_append, List.append_assoc] at hchain
      exact ⟨last, hchain.right_of_append⟩

/-- The first character of a text has a stand-in only if it belongs to a word. -/
theorem Fits.head {c : Char} {text : List Char} {edit : Edit} {edits : List Edit}
    (h : Fits (c :: text) (edit :: edits)) : ∃ previous, StandsInWord previous (c, edit.1) := by
  obtain ⟨previous, hchain⟩ := h.standIns
  exact ⟨previous, (List.isChain_cons_cons.mp hchain).1⟩

/-- The second character of a text has a star as its stand-in only behind a word character. -/
theorem Fits.second {c d : Char} {text : List Char} {edit edit' : Edit} {edits : List Edit}
    (h : Fits (c :: d :: text) (edit :: edit' :: edits)) :
    StandsInWord (c, edit.1) (d, edit'.1) := by
  obtain ⟨previous, hchain⟩ := h.standIns
  exact (List.isChain_cons_cons.mp (List.isChain_cons_cons.mp hchain).2).1

/-- A character that belongs to no word has no stand-in. -/
theorem Fits.eq_none {text : List Char} {edits : List Edit} (h : Fits text edits) {k : Nat}
    {c : Char} {edit : Edit} (hc : text[k]? = some c) (hedit : edits[k]? = some edit)
    (hword : isWordChar c = false) : edit.1 = none := by
  obtain ⟨hk, rfl⟩ := List.getElem?_eq_some_iff.mp hc
  obtain ⟨hk', rfl⟩ := List.getElem?_eq_some_iff.mp hedit
  have hrest : Fits (text.take k ++ text.drop k) edits := by rwa [List.take_append_drop]
  have hrest := hrest.drop
  rw [List.length_take, Nat.min_eq_left hk.le, List.drop_eq_getElem_cons hk,
    List.drop_eq_getElem_cons hk'] at hrest
  obtain ⟨previous, hstands⟩ := hrest.head
  by_contra hsome
  obtain ⟨d, hd⟩ := Option.ne_none_iff_exists'.mp hsome
  exact absurd (hstands d hd).1 (by rw [hword]; decide)

/-- A line feed stays. -/
theorem replaceChar_newline (blanked : Bool) : replaceChar '\n' none blanked = '\n' := by
  cases blanked <;> rfl

/-- A character that is blanked and has no stand-in is left as outside code. -/
theorem replaceChar_blanked (c : Char) : replaceChar c none true = blankOut c := by
  by_cases hfeed : c = '\n'
  · simp [replaceChar, blankOut, hfeed]
  by_cases hreturn : c = '\r'
  · simp [replaceChar, blankOut, hreturn]
  simp [replaceChar, blankOut, hfeed, hreturn]

/-- A character outside code is left once. -/
theorem blankOut_blankOut (c : Char) : blankOut (blankOut c) = blankOut c := by
  simp only [blankOut]
  split <;> simp_all

/-- An edited character is the character, its stand-in or a space. -/
theorem replaceChar_cases (c : Char) (edit : Edit) :
    replaceChar c edit.1 edit.2 = ' ' ∨ edit.1 = some (replaceChar c edit.1 edit.2) ∨
      (edit.1 = none ∧ replaceChar c edit.1 edit.2 = c) := by
  obtain ⟨standIn, blanked⟩ := edit
  rw [replaceChar]
  split
  · exact .inl rfl
  · cases standIn with
    | none => exact .inr (.inr ⟨rfl, rfl⟩)
    | some d => exact .inr (.inl rfl)

/-- Edits of two parts of a text. -/
theorem applyEdits_append {edits : List Edit} (front text : List Char)
    (h : front.length ≤ edits.length) : applyEdits edits (front ++ text) =
      applyEdits (edits.take front.length) front ++ applyEdits (edits.drop front.length) text := by
  have hlength : front.length = (edits.take front.length).length := by simp [h]
  conv_lhs => rw [← List.take_append_drop front.length edits]
  exact List.zipWith_append hlength

/-- A text has no use for more edits than characters. -/
theorem applyEdits_take (edits : List Edit) (text : List Char) :
    applyEdits (edits.take text.length) text = applyEdits edits text := by
  induction text generalizing edits with
  | nil => rfl
  | cons c text ih =>
    cases edits with
    | nil => rfl
    | cons edit edits => exact congrArg (replaceChar c edit.1 edit.2 :: ·) (ih edits)

/-- Edited texts have the length of the text. -/
theorem length_applyEdits {edits : List Edit} {text : List Char}
    (h : text.length ≤ edits.length) : (applyEdits edits text).length = text.length := by
  simp [applyEdits, h]

/-- The start of an edited text that is made of two parts. -/
theorem take_applyEdits {edits : List Edit} (front middle text : List Char)
    (h : front.length + middle.length ≤ edits.length) :
    (applyEdits edits (front ++ (middle ++ text))).take (front.length + middle.length) =
      applyEdits edits front ++
        applyEdits ((edits.drop front.length).take middle.length) middle := by
  have hmiddle : middle.length ≤ (edits.drop front.length).length := by
    rw [List.length_drop]
    omega
  rw [applyEdits_append _ _ (by omega), applyEdits_append _ _ hmiddle, applyEdits_take,
    ← List.append_assoc]
  refine List.take_left' ?_
  rw [List.length_append, length_applyEdits (by omega),
    length_applyEdits (by rw [List.length_take]; omega)]

/-- Blanking leaves characters as outside code. -/
theorem applyEdits_blanked (text : List Char) :
    applyEdits (List.replicate text.length (none, true)) text = text.map blankOut := by
  induction text with
  | nil => rfl
  | cons c text ih =>
    rw [List.map_cons, ← ih, ← replaceChar_blanked c]
    rfl

/-- Edits that do nothing leave a text as it is. -/
theorem applyEdits_kept (text : List Char) :
    applyEdits (List.replicate text.length (none, false)) text = text := by
  induction text with
  | nil => rfl
  | cons c text ih => exact congrArg (c :: ·) ih

end BrickLint.Dialect
