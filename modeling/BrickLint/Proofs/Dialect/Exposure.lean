import BrickLint.Proofs.Dialect.Pieces
import BrickLint.Proofs.Scrub.NormalForm
import Mathlib

/-!
# Comments and literals of mapped sources

Stand-ins and reference marks lie in code, and an assembly block starts and ends there, so a comment
or a literal is blanked whole or not at all, and scrubbing a mapped source gives the mapped scrubbed
source. There is one exception: a default value that runs to the end of its row blanks the start of
a comment or a literal that goes on in the next row, and the rest of it is exposed.
-/

namespace BrickLint.Dialect

open Text

/-- A default value breaks off a comment or a literal: it runs to the end of its row, and the line
feed behind it stands neither in code nor in an assembly block. -/
structure BreaksOff (source : List Char) (pieces : List Piece) (offset : Nat) : Prop where
  /-- The value goes on to the end of the row. -/
  inValue : (defaultMasks (scrub source))[offset]? = some true
  /-- The row ends behind it. -/
  feed : source[offset + 1]? = some '\n'
  /-- The line feed belongs to a comment or a literal. -/
  notCode : ¬InCode pieces (offset + 1)
  /-- No assembly block goes on there. -/
  notAsm : (asmMask false 0 (scrub source))[offset + 1]? = some false

/-- A comment or a literal does not stand in code. -/
theorem not_inCode {before after : List Piece} {piece : Piece} (hhidden : piece.IsHidden) {i : Nat}
    (hi : i < piece.chars.length) :
    ¬InCode (before ++ piece :: after) ((before.flatMap Piece.chars).length + i) := by
  induction before with
  | nil =>
    rw [List.nil_append, inCode_cons]
    rintro (⟨_, c, rfl⟩ | ⟨later, hlater, _⟩)
    · exact hhidden c rfl
    · simp only [List.flatMap_nil, List.length_nil] at hlater
      omega
  | cons first before ih =>
    rw [List.cons_append, inCode_cons, List.flatMap_cons, List.length_append]
    rintro (⟨hzero, _⟩ | ⟨later, hlater, hin⟩)
    · have := first.length_chars_pos
      omega
    · obtain rfl : later = (before.flatMap Piece.chars).length + i := by omega
      exact ih hin

/-- What a character outside code is left as is blank and belongs to no word. -/
theorem blankOut_spec (c : Char) :
    isBlank (blankOut c) = true ∧ isWordChar (blankOut c) = false ∧
      (blankOut c = '\n' → c = '\n') := by
  rw [blankOut]
  split
  case isTrue hend => rcases hend with rfl | rfl <;> decide
  case isFalse => exact ⟨by decide, by decide, fun h => absurd h (by decide)⟩

/-- Scrubbing keeps the length of pieces. -/
theorem length_flatMap_scrubbed (pieces : List Piece) :
    (pieces.flatMap Piece.scrubbed).length = (pieces.flatMap Piece.chars).length := by
  simp [List.length_flatMap, Piece.length_scrubbed]

section Hidden

variable {source : List Char} {before after : List Piece} {piece : Piece}
  (h : IsSegmentation (before ++ piece :: after) source) (hhidden : piece.IsHidden)

include h hhidden

/-- The characters of a comment or a literal, in the source and in its scrubbed text. -/
theorem getElem?_of_piece {i : Nat} {c : Char} (hc : piece.chars[i]? = some c) :
    source[(before.flatMap Piece.chars).length + i]? = some c ∧
      (scrub source)[(before.flatMap Piece.chars).length + i]? = some (blankOut c) := by
  have hi := (List.getElem?_eq_some_iff.mp hc).1
  constructor
  · rw [← h.flatMap_chars, List.flatMap_append, List.flatMap_cons,
      List.getElem?_append_right (by omega), Nat.add_sub_cancel_left,
      List.getElem?_append_left hi, hc]
  · rw [scrub_of_isSegmentation h, List.flatMap_append, List.flatMap_cons,
      ← length_flatMap_scrubbed, List.getElem?_append_right (by omega), Nat.add_sub_cancel_left,
      List.getElem?_append_left (by rwa [piece.length_scrubbed]), hhidden.scrubbed_eq,
      List.getElem?_map, hc, Option.map_some]

/-- The characters of a comment or a literal have no stand-ins. -/
theorem exists_edit_of_piece {i : Nat} (hi : i < piece.chars.length) :
    ∃ blanked,
      (edits (scrub source))[(before.flatMap Piece.chars).length + i]? = some (none, blanked) ∧
        (blankMask (scrub source))[(before.flatMap Piece.chars).length + i]? = some blanked := by
  obtain ⟨_, hc⟩ := getElem?_of_piece h hhidden (List.getElem?_eq_getElem hi)
  have hfit := fits_edits (scrub source)
  have hk : (before.flatMap Piece.chars).length + i < (edits (scrub source)).length := by
    rw [hfit.length_eq]
    exact (List.getElem?_eq_some_iff.mp hc).1
  have hedit := List.getElem?_eq_getElem hk
  have hnone := hfit.eq_none hc hedit (blankOut_spec _).2.1
  refine ⟨_, ?_, (List.getElem?_zip_eq_some.mp hedit).2⟩
  rw [hedit]
  exact congrArg some (Prod.ext hnone rfl)

/-- As long as no value breaks off, the characters of a comment or a literal are blanked together or
kept together. -/
theorem getElem?_blankMask_of_piece {i : Nat} (hi : i < piece.chars.length)
    (hbreak : ∀ j < i, ¬BreaksOff source (before ++ piece :: after)
      ((before.flatMap Piece.chars).length + j)) :
    (blankMask (scrub source))[(before.flatMap Piece.chars).length + i]? =
      (blankMask (scrub source))[(before.flatMap Piece.chars).length]? := by
  induction i with
  | zero => rfl
  | succ i ih =>
    have hprevious := ih (by omega) fun j hj => hbreak j (by omega)
    obtain ⟨_, hc⟩ := getElem?_of_piece h hhidden (List.getElem?_eq_getElem (by omega : i < _))
    obtain ⟨hsource, hd⟩ := getElem?_of_piece h hhidden (List.getElem?_eq_getElem hi)
    rcases blankMask_between hc hd (blankOut_spec _).1 (blankOut_spec _).1 with
      hsame | ⟨hfeed, hvalue, hasm⟩
    · exact hsame.trans hprevious
    · rw [(blankOut_spec _).2.2 hfeed] at hsource
      exact absurd ⟨hvalue, hsource, not_inCode hhidden hi, hasm⟩ (hbreak i (Nat.lt_succ_self i))

/-- As long as no value breaks off, a comment or a literal has the same edit all over. -/
theorem take_edits_of_piece {length : Nat} (hlength : length ≤ piece.chars.length)
    (hbreak : ∀ i, i + 1 < length → ¬BreaksOff source (before ++ piece :: after)
      ((before.flatMap Piece.chars).length + i)) {blanked : Bool}
    (hblanked : (blankMask (scrub source))[(before.flatMap Piece.chars).length]? = some blanked) :
    ((edits (scrub source)).drop (before.flatMap Piece.chars).length).take length =
      List.replicate length (none, blanked) := by
  apply List.ext_getElem?
  intro i
  rw [List.getElem?_take, List.getElem?_replicate, List.getElem?_drop]
  split
  case isFalse => rfl
  case isTrue hi =>
    obtain ⟨found, hedit, hmask⟩ := exists_edit_of_piece h hhidden (i := i) (by omega)
    have hsame := getElem?_blankMask_of_piece h hhidden (i := i) (by omega)
      fun j hj => hbreak j (by omega)
    obtain rfl : found = blanked := Option.some.inj (hmask.symm.trans (hsame.trans hblanked))
    exact hedit

end Hidden

/-- Pieces in front of the first place where a value breaks off are blanked whole or not at all. -/
theorem allUniform_of_not_breaksOff {source : List Char} {seen before after : List Piece}
    (h : IsSegmentation (seen ++ (before ++ after)) source)
    (hbreak : ∀ offset, offset + 1 < ((seen ++ before).flatMap Piece.chars).length →
      ¬BreaksOff source (seen ++ (before ++ after)) offset) :
    AllUniform ((edits (scrub source)).drop (seen.flatMap Piece.chars).length) before := by
  induction before generalizing seen with
  | nil => trivial
  | cons piece before ih =>
    have hshift : seen ++ (piece :: before ++ after) = (seen ++ [piece]) ++ (before ++ after) := by
      simp
    refine ⟨fun hhidden => ?_, ?_⟩
    · obtain ⟨blanked, _, hblanked⟩ := exists_edit_of_piece h hhidden piece.length_chars_pos
      refine ⟨blanked, take_edits_of_piece h hhidden le_rfl (fun i hi => hbreak _ ?_) hblanked⟩
      simp only [List.flatMap_append, List.flatMap_cons, List.length_append]
      omega
    · have hlength : ((seen ++ [piece]).flatMap Piece.chars).length =
          (seen.flatMap Piece.chars).length + piece.chars.length := by simp
      rw [List.drop_drop, ← hlength]
      rw [hshift] at h hbreak
      refine ih h fun offset hoffset => hbreak offset ?_
      simpa using hoffset

/-- A mapped source is mapped by the edits of its scrubbed text, and so is the scrubbed text. -/
theorem toC_scrub (source : List Char) :
    toC (scrub source) = applyEdits (edits (scrub source)) (scrub source) := by
  rw [toC_eq, scrub_of_isBare (isBare_scrub source)]

/-- Without a value that breaks off, the mapped source falls into the mapped pieces, and scrubbing
it gives the mapped scrubbed source. -/
theorem isSegmentation_toC {pieces : List Piece} {source : List Char}
    (h : IsSegmentation pieces source) (hbreak : ∀ offset, ¬BreaksOff source pieces offset) :
    IsSegmentation (mapPieces (edits (scrub source)) pieces) (toC source) ∧
      scrub (toC source) = toC (scrub source) := by
  have huniform : AllUniform (edits (scrub source)) pieces :=
    @allUniform_of_not_breaksOff source [] pieces [] (by simpa using h)
      fun offset _ => by simpa using hbreak offset
  have hmapped : IsSegmentation (mapPieces (edits (scrub source)) pieces) (toC source) := by
    have hpieces := @isSegmentation_mapPieces pieces [] [] source _ (by simpa using h)
      (fits_edits _) huniform (by simp [h.flatMap_chars, applyEdits, IsSegmentation.nil])
    rwa [List.append_nil] at hpieces
  refine ⟨hmapped, ?_⟩
  have hlength : (pieces.flatMap Piece.chars).length ≤ (edits (scrub source)).length := by
    rw [(fits_edits _).length_eq, scrub_of_isSegmentation h, length_flatMap_scrubbed]
  rw [scrub_of_isSegmentation hmapped, flatMap_scrubbed_mapPieces huniform hlength, toC_scrub]
  exact congrArg _ (scrub_of_isSegmentation h).symm

/-- An offset lies in a piece. -/
theorem exists_piece_at {pieces : List Piece} {offset : Nat}
    (h : offset < (pieces.flatMap Piece.chars).length) :
    ∃ before piece after i, pieces = before ++ piece :: after ∧ i < piece.chars.length ∧
      offset = (before.flatMap Piece.chars).length + i := by
  induction pieces generalizing offset with
  | nil => simp at h
  | cons piece pieces ih =>
    by_cases hfirst : offset < piece.chars.length
    · exact ⟨[], piece, pieces, offset, rfl, hfirst, by simp⟩
    · rw [List.flatMap_cons, List.length_append] at h
      have hlater : offset - piece.chars.length < (pieces.flatMap Piece.chars).length := by omega
      obtain ⟨before, found, after, i, rfl, hi, hoffset⟩ := ih hlater
      refine ⟨piece :: before, found, after, i, rfl, hi, ?_⟩
      rw [List.flatMap_cons, List.length_append]
      omega

/-- A comment or a literal does not start with a line feed. -/
theorem head?_chars_ne_newline {piece : Piece} (hhidden : piece.IsHidden) :
    piece.chars[0]? ≠ some '\n' := by
  cases piece with
  | code c => exact absurd rfl (hhidden c)
  | literal quote body closed => cases quote <;> simp [Piece.chars, Quote.mark]
  | _ => simp [Piece.chars]

/-- Where a value breaks off, a comment or a literal goes on behind a line feed. -/
theorem BreaksOff.exists_piece {pieces : List Piece} {source : List Char} {offset : Nat}
    (hbreak : BreaksOff source pieces offset) (h : IsSegmentation pieces source) :
    ∃ before piece after front back, pieces = before ++ piece :: after ∧ piece.IsHidden ∧
      piece.chars = front ++ '\n' :: back ∧ front ≠ [] ∧
      offset + 1 = (before.flatMap Piece.chars).length + front.length := by
  have hlength : offset + 1 < (pieces.flatMap Piece.chars).length := by
    rw [h.flatMap_chars]
    exact (List.getElem?_eq_some_iff.mp hbreak.feed).1
  obtain ⟨before, piece, after, i, rfl, hi, hoffset⟩ := exists_piece_at hlength
  have hhidden : piece.IsHidden := by
    rintro c rfl
    obtain rfl : i = 0 := by simpa [Piece.chars] using hi
    exact hbreak.notCode ⟨before, c, after, rfl, hoffset.symm⟩
  have hfeed : piece.chars[i] = '\n' := by
    have hfound := (getElem?_of_piece h hhidden (List.getElem?_eq_getElem hi)).1
    rw [← hoffset, hbreak.feed] at hfound
    exact (Option.some.inj hfound).symm
  have hfront : (piece.chars.take i).length = i := by
    rw [List.length_take, Nat.min_eq_left hi.le]
  refine ⟨before, piece, after, piece.chars.take i, piece.chars.drop (i + 1), rfl, hhidden, ?_, ?_,
    by rw [hfront, hoffset]⟩
  · rw [← hfeed, List.getElem_cons_drop, List.take_append_drop]
  · intro hnil
    obtain rfl : i = 0 := by simpa [hnil] using hfront.symm
    exact head?_chars_ne_newline hhidden ((List.getElem?_eq_getElem hi).trans (congrArg some hfeed))

/-- A character of a default value is blanked. -/
theorem blankMask_of_defaultMasks {text : List Char} {k : Nat}
    (h : (defaultMasks text)[k]? = some true) : (blankMask text)[k]? = some true := by
  have hk : k < text.length := by
    rw [← length_defaultMasks]
    exact (List.getElem?_eq_some_iff.mp h).1
  have hasm : k < (asmMask false 0 text).length := by rwa [length_asmMask]
  have hreference : k < (referenceMask false false text).length := by rwa [length_referenceMask]
  simp [blankMask, List.getElem?_zipWith, h, List.getElem?_eq_getElem hasm,
    List.getElem?_eq_getElem hreference]

/-- Characters in front of a line feed are blanked, and the line feed stays. -/
theorem applyEdits_toFeed (front : List Char) (blanked : Bool) :
    applyEdits (List.replicate front.length (none, true) ++ [(none, blanked)]) (front ++ ['\n']) =
      (front ++ ['\n']).map blankOut := by
  induction front with
  | nil => exact congrArg (· :: []) (replaceChar_newline blanked)
  | cons c front ih =>
    rw [List.cons_append, List.map_cons, ← ih, ← replaceChar_blanked c]
    rfl

/-- A source whose first pieces are followed by characters that the edits blank: the rest of it is
scrubbed on its own. -/
theorem scrub_applyEdits {before after : List Piece} {source : List Char} {edits : List Edit}
    (h : IsSegmentation (before ++ after) source) (hfit : Fits (scrub source) edits)
    (huniform : AllUniform edits before) {stretch tail : List Char}
    (hsource : source = before.flatMap Piece.chars ++ (stretch ++ tail))
    (hstretch : applyEdits
      ((edits.drop (before.flatMap Piece.chars).length).take stretch.length) stretch =
        stretch.map blankOut) :
    scrub (applyEdits edits source) = applyEdits edits (before.flatMap Piece.scrubbed) ++
      (stretch.map blankOut ++ scrub ((applyEdits edits source).drop
        ((before.flatMap Piece.chars).length + stretch.length))) := by
  have hlength : edits.length = source.length :=
    hfit.length_eq.trans (forall₂_scan source).length_eq.symm
  rw [hsource, List.length_append, List.length_append] at hlength
  have hrest : (applyEdits edits source).drop
      ((before.flatMap Piece.chars).length + stretch.length) = applyEdits
        ((edits.drop (before.flatMap Piece.chars).length).drop stretch.length) tail := by
    rw [applyEdits, List.drop_zipWith, ← List.drop_drop, ← List.drop_drop, hsource,
      List.drop_left, List.drop_left, applyEdits]
  obtain ⟨pieces, hpieces⟩ := exists_isSegmentation (applyEdits
    ((edits.drop (before.flatMap Piece.chars).length).drop stretch.length) tail)
  have hblanked : IsSegmentation (stretch.map (fun c => .code (blankOut c)) ++ pieces)
      (applyEdits (edits.drop (before.flatMap Piece.chars).length)
        (source.drop (before.flatMap Piece.chars).length)) := by
    rw [hsource, List.drop_left, applyEdits_append _ _ (by rw [List.length_drop]; omega), hstretch]
    exact isSegmentation_blanked hpieces stretch
  rw [scrub_of_isSegmentation (isSegmentation_mapPieces h hfit huniform hblanked),
    List.flatMap_append, List.flatMap_append, flatMap_scrubbed_mapPieces huniform (by omega), hrest,
    scrub_of_isSegmentation hpieces, List.flatMap_map, List.map_eq_flatMap (f := blankOut)]
  rfl

section First

variable {source front back : List Char} {before after : List Piece} {piece : Piece} {offset : Nat}
  (h : IsSegmentation (before ++ piece :: after) source) (hhidden : piece.IsHidden)
  (hchars : piece.chars = front ++ '\n' :: back) (hfront : front ≠ [])
  (hoffset : offset + 1 = (before.flatMap Piece.chars).length + front.length)
  (hbreak : BreaksOff source (before ++ piece :: after) offset)
  (hfirst : ∀ earlier < offset, ¬BreaksOff source (before ++ piece :: after) earlier)

include h hhidden hchars hfront hoffset hbreak hfirst

/-- The edits of a comment or a literal, up to the line feed at which a value first breaks off. -/
theorem exists_take_edits :
    ∃ blanked, ((edits (scrub source)).drop (before.flatMap Piece.chars).length).take
      (front ++ ['\n']).length = List.replicate front.length (none, true) ++ [(none, blanked)] := by
  have hpos := List.length_pos_iff.mpr hfront
  have hlength : front.length < piece.chars.length := by simp [hchars]
  have hblanked : (blankMask (scrub source))[(before.flatMap Piece.chars).length]? = some true := by
    have hlast : (before.flatMap Piece.chars).length + (front.length - 1) = offset := by omega
    rw [← getElem?_blankMask_of_piece h hhidden (i := front.length - 1) (by omega)
      fun j hj => hfirst _ (by omega), hlast]
    exact blankMask_of_defaultMasks hbreak.inValue
  have htake := take_edits_of_piece h hhidden hlength.le (fun i hi => hfirst _ (by omega)) hblanked
  obtain ⟨blanked, hfeed, _⟩ := exists_edit_of_piece h hhidden hlength
  refine ⟨blanked, ?_⟩
  rw [List.length_append, List.length_singleton, List.take_add_one, htake, List.getElem?_drop,
    hfeed, Option.toList_some]

/-- The mapped source up to the line feed at which a value first breaks off, and what scrubbing
makes of the rest. -/
theorem scrub_toC_at_feed :
    scrub (toC source) = (toC (scrub source)).take (offset + 2) ++
      scrub ((toC source).drop (offset + 2)) := by
  obtain ⟨blanked, htake⟩ := exists_take_edits h hhidden hchars hfront hoffset hbreak hfirst
  have hpos := List.length_pos_iff.mpr hfront
  have huniform : AllUniform (edits (scrub source)) before :=
    @allUniform_of_not_breaksOff source [] before _ (by simpa using h) fun earlier hearlier => by
      rw [List.nil_append] at hearlier
      simpa using hfirst earlier (by omega)
  have hplace : offset + 2 = (before.flatMap Piece.chars).length + (front ++ ['\n']).length := by
    rw [List.length_append, List.length_singleton]
    omega
  have hsource : source = before.flatMap Piece.chars ++
      ((front ++ ['\n']) ++ (back ++ after.flatMap Piece.chars)) := by
    rw [← h.flatMap_chars, List.flatMap_append, List.flatMap_cons, hchars]
    simp
  have hscrub : scrub source = before.flatMap Piece.scrubbed ++
      ((front.map blankOut ++ ['\n']) ++ (back.map blankOut ++ after.flatMap Piece.scrubbed)) := by
    rw [scrub_of_isSegmentation h, List.flatMap_append, List.flatMap_cons, hhidden.scrubbed_eq,
      hchars]
    simp [blankOut]
  have hlength : (before.flatMap Piece.scrubbed).length + (front.map blankOut ++ ['\n']).length ≤
      (edits (scrub source)).length := by
    rw [(fits_edits _).length_eq, hscrub]
    simp
  have hblanks := applyEdits_toFeed (front.map blankOut) blanked
  rw [List.length_map] at hblanks
  have hstart := take_applyEdits _ _ (back.map blankOut ++ after.flatMap Piece.scrubbed) hlength
  rw [← hscrub, ← toC_scrub, length_flatMap_scrubbed, List.length_append, List.length_map,
    ← List.length_append, ← hplace, htake, hblanks] at hstart
  have hmapped := scrub_applyEdits h (fits_edits _) huniform hsource
    (by rw [htake, applyEdits_toFeed])
  rw [hstart, toC_eq, hmapped, ← hplace, List.append_assoc]
  simp [blankOut_blankOut]

end First

/-- Up to the first place where a default value breaks off a comment or a literal, scrubbing the
mapped source gives the mapped scrubbed source. Behind that place the rest of the comment or literal
is scrubbed as if it were code. -/
theorem scrub_toC_of_breaksOff {pieces : List Piece} {source : List Char}
    (h : IsSegmentation pieces source) {offset : Nat} (hbreak : BreaksOff source pieces offset)
    (hfirst : ∀ earlier < offset, ¬BreaksOff source pieces earlier) :
    scrub (toC source) = (toC (scrub source)).take (offset + 2) ++
      scrub ((toC source).drop (offset + 2)) := by
  obtain ⟨before, piece, after, front, back, rfl, hhidden, hchars, hfront, hoffset⟩ :=
    hbreak.exists_piece h
  exact scrub_toC_at_feed h hhidden hchars hfront hoffset hbreak hfirst

/-- Unless a default value breaks off a comment or a literal, the mapped source has the mapped
pieces of the source, and scrubbing it gives the mapped scrubbed source. When values do so, that
holds up to the first place, behind which the rest of the comment or literal is exposed. -/
theorem scrub_toC (source : List Char) :
    ∃ pieces, IsSegmentation pieces source ∧
      ((∀ offset, ¬BreaksOff source pieces offset) →
        IsSegmentation (mapPieces (edits (scrub source)) pieces) (toC source) ∧
          scrub (toC source) = toC (scrub source)) ∧
      ∀ offset, BreaksOff source pieces offset →
        (∀ earlier < offset, ¬BreaksOff source pieces earlier) →
          scrub (toC source) = (toC (scrub source)).take (offset + 2) ++
            scrub ((toC source).drop (offset + 2)) := by
  obtain ⟨pieces, hpieces⟩ := exists_isSegmentation source
  exact ⟨pieces, hpieces,
    isSegmentation_toC hpieces, fun _ hbreak hfirst => scrub_toC_of_breaksOff hpieces hbreak hfirst⟩

/-- A header with a reference mark and a default value, a block of assembly with a comment in it,
and a comment of two rows. -/
def closedValue : List Char :=
  "task f(int &a = 1) \x7b asm \x7b /* x\n */ \x7d /* y\n */ \x7d".toList

/-- The comment in the block is blanked whole, and the other comment is kept. -/
theorem scrub_toC_closedValue :
    scrub (toC closedValue) = toC (scrub closedValue) ∧
      toC closedValue =
        "void f(int  a    ) \x7b           \n      /* y\n */ \x7d".toList := by
  have hvalues : ((defaultMasks (scrub closedValue)).zip closedValue.tail).all
      (fun pair => !(pair.1 && pair.2 == '\n')) = true := by cbv
  obtain ⟨pieces, _, hkept, _⟩ := scrub_toC closedValue
  refine ⟨(hkept fun offset hbreak => ?_).2, by cbv⟩
  have hnext : closedValue.tail[offset]? = some '\n' := by
    rw [List.getElem?_tail]
    exact hbreak.feed
  have hpair : ((defaultMasks (scrub closedValue)).zip closedValue.tail)[offset]? =
      some (true, '\n') := List.getElem?_zip_eq_some.mpr ⟨hbreak.inValue, hnext⟩
  exact absurd (List.all_eq_true.mp hvalues _ (List.mem_of_getElem? hpair)) (by decide)

/-- A default value with a comment behind it that goes on in the next row. -/
def brokenComment : List Char :=
  "void f(int a = 1 /* one\n two */) \x7b \x7d".toList

/-- The value blanks the start of the comment, and the rest of the comment is exposed. -/
theorem scrub_toC_brokenComment :
    scrub (toC brokenComment) = "void f(int a           \n two */) \x7b \x7d".toList ∧
      toC (scrub brokenComment) = "void f(int a           \n       ) \x7b \x7d".toList ∧
      scrub (toC brokenComment) ≠ toC (scrub brokenComment) := by
  have hmapped : scrub (toC brokenComment) =
      "void f(int a           \n two */) \x7b \x7d".toList := by cbv
  have hscrubbed : toC (scrub brokenComment) =
      "void f(int a           \n       ) \x7b \x7d".toList := by cbv
  refine ⟨hmapped, hscrubbed, ?_⟩
  rw [hmapped, hscrubbed]
  decide

end BrickLint.Dialect
