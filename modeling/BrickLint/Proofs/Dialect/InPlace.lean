import BrickLint.Proofs.Dialect.Keyword
import BrickLint.Proofs.Dialect.Pieces
import Mathlib

/-!
# Mapping in place

No character moves when a source is mapped to C. Keywords give way to stand-ins of their length, and
blocks of assembly, reference marks and default values are blanked; all the rest stays.
-/

namespace BrickLint.Dialect

open Text

/-- How a source is mapped in place, by what stands in its scrubbed text. -/
structure MapsInPlace (source mapped : List Char) : Prop where
  /-- The length stays. -/
  length_eq : mapped.length = source.length
  /-- Line feeds and carriage returns stay, and none is added. -/
  lineEnds : ∀ c, c = '\n' ∨ c = '\r' →
    ∀ offset : Nat, mapped[offset]? = some c ↔ source[offset]? = some c
  /-- A character outside keywords is kept, or it is a space in place of an assembly block, a
  reference mark or a default value. -/
  kept : ∀ (offset : Nat) (c : Char), source[offset]? = some c →
    (∀ start keyword standIn, IsKeywordAt (scrub source) start keyword standIn →
      ¬(start ≤ offset ∧ offset < start + keyword.length)) →
    mapped[offset]? = some c ∨ mapped[offset]? = some ' ' ∧
      (InAssembly (scrub source) offset ∨ IsReferenceMark (scrub source) offset ∨
        InDefaultValue (scrub source) offset)
  /-- A keyword outside assembly blocks and default values is replaced by its stand-in, filled up
  with spaces. -/
  replaced : ∀ start keyword standIn, IsKeywordAt (scrub source) start keyword standIn →
    (∀ offset, start ≤ offset → offset < start + keyword.length →
      ¬InAssembly (scrub source) offset ∧ ¬InDefaultValue (scrub source) offset) →
    (mapped.drop start).take keyword.length = filledUp keyword standIn

/-- Scrubbing keeps the length. -/
theorem length_scrub (source : List Char) : (scrub source).length = source.length :=
  (forall₂_scan source).length_eq.symm

/-- Mapping keeps the length. -/
theorem length_toC (source : List Char) : (toC source).length = source.length := by
  rw [toC_eq]
  exact length_applyEdits (by rw [(fits_edits _).length_eq, length_scrub])

/-- The end of a line is kept by scrubbing. -/
theorem getElem?_scrub_of_lineEnd {source : List Char} {offset : Nat} {c : Char}
    (hend : c = '\n' ∨ c = '\r') (hc : source[offset]? = some c) :
    (scrub source)[offset]? = some c := by
  obtain ⟨pieces, hpieces⟩ := exists_isSegmentation source
  rw [← hpieces.flatMap_chars] at hc
  rw [scrub_of_isSegmentation hpieces]
  rcases getElem?_scrubbed hc with ⟨_, hkept⟩ | ⟨_, hleft⟩
  · exact hkept
  · rwa [blankOut, if_pos hend] at hleft

/-- Every character is edited by the overlay of stand-ins and the mask of blanked characters. -/
theorem exists_replaceChar {source : List Char} {offset : Nat} {c : Char}
    (hc : source[offset]? = some c) : ∃ standIn blanked,
      (keywordOverlay false [] (scrub source))[offset]? = some standIn ∧
        (blankMask (scrub source))[offset]? = some blanked ∧
          (toC source)[offset]? = some (replaceChar c standIn blanked) := by
  have hoffset := (List.getElem?_eq_some_iff.mp hc).1
  have hoverlay : offset < (keywordOverlay false [] (scrub source)).length := by
    rwa [length_keywordOverlay, length_scrub]
  have hmask : offset < (blankMask (scrub source)).length := by
    rwa [length_blankMask, length_scrub]
  refine ⟨_, _, List.getElem?_eq_getElem hoverlay, List.getElem?_eq_getElem hmask, ?_⟩
  have hedit : (edits (scrub source))[offset]? =
      some ((keywordOverlay false [] (scrub source))[offset], (blankMask (scrub source))[offset]) :=
    List.getElem?_zip_eq_some.mpr
      ⟨List.getElem?_eq_getElem hoverlay, List.getElem?_eq_getElem hmask⟩
  rw [toC_eq, applyEdits, List.getElem?_zipWith, hc, hedit]

/-- Line feeds and carriage returns stay, and none is added. -/
theorem getElem?_toC_lineEnd {source : List Char} {c : Char} (hend : c = '\n' ∨ c = '\r')
    (offset : Nat) : (toC source)[offset]? = some c ↔ source[offset]? = some c := by
  have hspace : c ≠ ' ' := by rcases hend with rfl | rfl <;> decide
  have hstandIn : ¬IsStandInChar c := by rcases hend with rfl | rfl <;> decide
  have hword : isWordChar c = false := by rcases hend with rfl | rfl <;> decide
  constructor
  · intro h
    have hoffset : offset < source.length := by
      rw [← length_toC]
      exact (List.getElem?_eq_some_iff.mp h).1
    obtain ⟨standIn, blanked, hoverlay, _, hmapped⟩ :=
      exists_replaceChar (List.getElem?_eq_getElem hoffset)
    rw [h] at hmapped
    have hc := (Option.some.inj hmapped).symm
    rcases replaceChar_cases source[offset] (standIn, blanked) with hblank | hsome | ⟨_, hkept⟩
    · exact absurd (hc.symm.trans hblank) hspace
    · obtain rfl : standIn = some c := hc ▸ hsome
      exact absurd (isStandInChar_of_keywordOverlay hoverlay).1 hstandIn
    · rw [List.getElem?_eq_getElem hoffset, ← hkept, hc]
  · intro hc
    obtain ⟨standIn, blanked, hoverlay, _, hmapped⟩ := exists_replaceChar hc
    have hnone : standIn = none := by
      by_contra hsome
      obtain ⟨d, rfl⟩ := Option.ne_none_iff_exists'.mp hsome
      obtain ⟨_, e, he, hwordChar⟩ := isStandInChar_of_keywordOverlay hoverlay
      rw [getElem?_scrub_of_lineEnd hend hc] at he
      obtain rfl := Option.some.inj he
      rw [hword] at hwordChar
      cases hwordChar
    rw [hmapped, hnone]
    rcases hend with rfl | rfl <;> cases blanked <;> rfl

/-- A character outside keywords has no stand-in, so it is blanked in a region or kept. -/
theorem getElem?_toC_of_not_keyword {source : List Char} {offset : Nat} {c : Char}
    (hc : source[offset]? = some c)
    (houtside : ∀ start keyword standIn, IsKeywordAt (scrub source) start keyword standIn →
      ¬(start ≤ offset ∧ offset < start + keyword.length)) :
    (toC source)[offset]? = some c ∨ (toC source)[offset]? = some ' ' ∧
      (InAssembly (scrub source) offset ∨ IsReferenceMark (scrub source) offset ∨
        InDefaultValue (scrub source) offset) := by
  obtain ⟨standIn, blanked, hoverlay, hmask, hmapped⟩ := exists_replaceChar hc
  cases standIn with
  | some d =>
    obtain ⟨start, keyword, standIn, hkeyword, i, hi, rfl⟩ := exists_isKeywordAt hoverlay
    exact absurd ⟨Nat.le_add_right start i, by omega⟩ (houtside start keyword standIn hkeyword)
  | none =>
    cases blanked with
    | false => exact .inl hmapped
    | true =>
      rw [replaceChar_blanked, blankOut] at hmapped
      split at hmapped
      case isTrue => exact .inl hmapped
      case isFalse => exact .inr ⟨hmapped, region_of_blankMask hmask⟩

/-- A character of a keyword is blanked only in assembly blocks and default values. -/
theorem IsKeywordAt.blankMask {text : List Char} {start : Nat} {keyword standIn : String}
    (h : IsKeywordAt text start keyword standIn) {i : Nat} (hi : i < keyword.length)
    (hassembly : ¬InAssembly text (start + i)) (hvalue : ¬InDefaultValue text (start + i)) :
    (blankMask text)[start + i]? ≠ some true := by
  intro hmask
  rcases region_of_blankMask hmask with hinside | hmark | hinside
  · exact hassembly hinside
  · obtain ⟨c, hc, hword⟩ := h.exists_isWordChar hi
    obtain rfl := Option.some.inj (hmark.getElem?.symm.trans hc)
    exact absurd hword (by decide)
  · exact hvalue hinside

/-- A keyword outside assembly blocks and default values is replaced by its stand-in. -/
theorem take_toC_of_keyword {source : List Char} {start : Nat} {keyword standIn : String}
    (h : IsKeywordAt (scrub source) start keyword standIn)
    (houtside : ∀ offset, start ≤ offset → offset < start + keyword.length →
      ¬InAssembly (scrub source) offset ∧ ¬InDefaultValue (scrub source) offset) :
    ((toC source).drop start).take keyword.length = filledUp keyword standIn := by
  have hlength := (length_filledUp h.1).1
  apply List.ext_getElem?
  intro i
  rw [List.getElem?_take]
  split
  case isFalse hi => exact (List.getElem?_eq_none (by omega)).symm
  case isTrue hi =>
    obtain ⟨e, he, _⟩ := h.exists_isWordChar hi
    have hoffset : start + i < source.length := by
      rw [← length_scrub]
      exact (List.getElem?_eq_some_iff.mp he).1
    obtain ⟨stand, blanked, hoverlay, hmask, hmapped⟩ :=
      exists_replaceChar (List.getElem?_eq_getElem hoffset)
    rw [h.getElem?_keywordOverlay hi] at hoverlay
    obtain ⟨d, hd, rfl⟩ := Option.map_eq_some_iff.mp hoverlay
    obtain ⟨hassembly, hvalue⟩ := houtside (start + i) (by omega) (by omega)
    obtain rfl : blanked = false := by
      cases blanked with
      | false => rfl
      | true => exact absurd hmask (h.blankMask hi hassembly hvalue)
    rw [List.getElem?_drop, hmapped, hd]
    rfl

/-- A source is mapped in place: its length and line ends stay, a character outside keywords is kept
or is a space in an assembly block, a reference mark or a default value, and a keyword outside
assembly blocks and default values gives way to its stand-in. -/
theorem mapsInPlace_toC (source : List Char) : MapsInPlace source (toC source) where
  length_eq := length_toC source
  lineEnds _ hend offset := getElem?_toC_lineEnd hend offset
  kept _ _ hc houtside := getElem?_toC_of_not_keyword hc houtside
  replaced _ _ _ hkeyword houtside := take_toC_of_keyword hkeyword houtside

/-- A subroutine with a reference parameter that has a default value. -/
def referenceDefault : List Char :=
  "sub f(int &a = 1)\n".toList

/-- The keyword of the subroutine lies outside regions and is replaced, and the ampersand is blanked
for one of the reasons. -/
theorem mapsInPlace_referenceDefault :
    ((toC referenceDefault).drop 0).take "sub".length = filledUp "sub" "int" ∧
      referenceDefault[10]? = some '&' ∧ (InAssembly (scrub referenceDefault) 10 ∨
        IsReferenceMark (scrub referenceDefault) 10 ∨
          InDefaultValue (scrub referenceDefault) 10) := by
  have hscrub : scrub referenceDefault = referenceDefault := by decide +kernel
  have hmaps := mapsInPlace_toC referenceDefault
  refine ⟨hmaps.replaced 0 "sub" "int" ⟨by decide, [], " f(int &a = 1)\n".toList, hscrub, rfl,
    rfl, by decide⟩ fun offset _ hoffset => ⟨fun hinside => ?_, fun hinside => ?_⟩, rfl, ?_⟩
  · rw [hscrub] at hinside
    exact absurd hinside.word_infix (by decide +kernel)
  · obtain ⟨k, hk, hequals⟩ := hinside.exists_equals
    have hfront : ∀ k < 3, referenceDefault[k]? ≠ some '=' := by decide
    rw [hscrub] at hequals
    exact hfront k (Nat.lt_of_le_of_lt hk hoffset) hequals
  · have houtside : ∀ start keyword standIn,
        IsKeywordAt (scrub referenceDefault) start keyword standIn →
          ¬(start ≤ 10 ∧ 10 < start + keyword.length) := by
      rintro start keyword standIn hkeyword ⟨hstart, hstop⟩
      obtain ⟨i, hi⟩ := Nat.exists_eq_add_of_le hstart
      obtain ⟨c, hc, hword⟩ := hkeyword.exists_isWordChar (i := i) (by omega)
      rw [hscrub, ← hi] at hc
      obtain rfl : '&' = c := Option.some.inj hc
      exact absurd hword (by decide)
    have hblanked : (toC referenceDefault)[10]? = some ' ' := by cbv
    rcases hmaps.kept 10 '&' rfl houtside with hkept | ⟨_, hregion⟩
    · rw [hblanked] at hkept
      exact absurd hkept (by decide)
    · exact hregion

end BrickLint.Dialect
