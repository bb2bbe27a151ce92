import BrickLint.Proofs.Anchor.Mark
import BrickLint.Proofs.Dialect.Edit

/-!
# Pieces of an edited source

Characters of code become other characters of code. A comment or a literal becomes blanks when all
of its characters are blanked, and it stays as it is when none of them is. As long as every comment
and every literal meets one of these fates, the pieces of a source become pieces of the edited
source.
-/

namespace BrickLint

open Text

/-- A comment or a literal. -/
def Piece.IsHidden (piece : Piece) : Prop :=
  ∀ c, piece ≠ .code c

/-- A piece is a character of code, or a comment or a literal. -/
theorem Piece.code_or_isHidden (piece : Piece) : (∃ c, piece = .code c) ∨ piece.IsHidden := by
  cases piece with
  | code c => exact .inl ⟨c, rfl⟩
  | _ => exact .inr nofun

/-- Outside code a scan leaves what is no code of all characters. -/
theorem Piece.IsHidden.scrubbed_eq {piece : Piece} (hhidden : piece.IsHidden) :
    piece.scrubbed = piece.chars.map blankOut := by
  cases piece with
  | code c => exact absurd rfl (hhidden c)
  | _ => rfl

/-- What a scan leaves of a source is what it leaves of the pieces. -/
theorem scrub_of_isSegmentation {pieces : List Piece} {source : List Char}
    (h : IsSegmentation pieces source) : scrub source = pieces.flatMap Piece.scrubbed :=
  congrArg Scan.text (scanFrom_isSegmentation h [])

/-- Blanked characters are code in front of any pieces. -/
theorem isSegmentation_blanked {pieces : List Piece} {rest : List Char}
    (h : IsSegmentation pieces rest) (chars : List Char) :
    IsSegmentation (chars.map (fun c => .code (blankOut c)) ++ pieces)
      (chars.map blankOut ++ rest) := by
  induction chars with
  | nil => exact h
  | cons c chars ih =>
    have hends : (Piece.code (blankOut c)).EndsBefore (chars.map blankOut ++ rest) := by
      rw [Piece.EndsBefore, blankOut]
      split
      case isTrue hend => rcases hend with rfl | rfl <;> simp [OpensPiece]
      case isFalse => simp [OpensPiece]
    exact .cons hends ih

namespace Dialect

/-- A stand-in opens nothing. -/
theorem IsStandInChar.not_opensPiece {d : Char} (h : IsStandInChar d) (next : Option Char) :
    ¬OpensPiece d next := by
  rintro (rfl | rfl | ⟨rfl, _⟩)
  · exact absurd h (by decide)
  · exact absurd h (by decide)
  · exact absurd h (by decide)

/-- Behind a character that belongs to no word, a marker of the edited source is a marker of the
source: a stand-in holds no slash, and its star stands behind a word character. -/
theorem head?_of_edited {c marker : Char} {rest text : List Char} {edit : Edit} {edits : List Edit}
    (hfit : Fits (c :: text) (edit :: edits)) (hlength : text.length = rest.length)
    (hc : isWordChar c = false) (hmarker : marker = '/' ∨ marker = '*')
    (hhead : (applyEdits edits rest).head? = some marker) : rest.head? = some marker := by
  cases rest with
  | nil => simp [applyEdits] at hhead
  | cons d rest =>
    obtain ⟨t, text, rfl⟩ := List.exists_cons_of_length_eq_add_one hlength
    cases edits with
    | nil => simp [applyEdits] at hhead
    | cons edit' edits =>
      obtain rfl : replaceChar d edit'.1 edit'.2 = marker := Option.some.inj hhead
      rcases replaceChar_cases d edit' with hspace | hstandIn | ⟨_, hkept⟩
      · rw [hspace] at hmarker
        exact absurd hmarker (by decide)
      · obtain ⟨_, hchar, hstar⟩ := hfit.second _ hstandIn
        rcases hmarker with hslash | hmarker
        · exact absurd (hslash ▸ hchar) (by decide)
        · exact absurd (hstar hmarker) (Bool.not_eq_true _ ▸ hc)
      · rw [hkept, List.head?_cons]

/-- An edited character of code opens nothing. -/
theorem not_opensPiece_edited {c : Char} {rest text : List Char} {edit : Edit} {edits : List Edit}
    (hends : ¬OpensPiece c rest.head?) (hfit : Fits (c :: text) (edit :: edits))
    (hlength : text.length = rest.length) :
    ¬OpensPiece (replaceChar c edit.1 edit.2) (applyEdits edits rest).head? := by
  obtain ⟨previous, hstands⟩ := hfit.head
  rcases replaceChar_cases c edit with hspace | hstandIn | ⟨_, hkept⟩
  · rw [hspace]
    simp [OpensPiece]
  · exact (hstands _ hstandIn).2.1.not_opensPiece _
  · rw [hkept]
    rintro (hdouble | hsingle | ⟨rfl, hline | hblock⟩)
    · exact hends (.inl hdouble)
    · exact hends (.inr (.inl hsingle))
    · have hhead := head?_of_edited hfit hlength (by decide) (.inl rfl) hline
      exact hends (.inr (.inr ⟨rfl, .inl hhead⟩))
    · have hhead := head?_of_edited hfit hlength (by decide) (.inr rfl) hblock
      exact hends (.inr (.inr ⟨rfl, .inr hhead⟩))

/-- What becomes of a piece. A character of code is edited; a comment or a literal is kept, or every
character of it is blanked. -/
def mapPiece (edits : List Edit) : Piece → List Piece
  | .code c => [.code (edits.head?.elim c fun edit => replaceChar c edit.1 edit.2)]
  | piece =>
    if edits.head?.any (·.2) then piece.chars.map fun c => .code (blankOut c) else [piece]

/-- What becomes of the pieces of a source. -/
def mapPieces (edits : List Edit) : List Piece → List Piece
  | [] => []
  | piece :: pieces => mapPiece edits piece ++ mapPieces (edits.drop piece.chars.length) pieces

/-- A comment or a literal is blanked whole or not at all. -/
def IsUniform (edits : List Edit) (piece : Piece) : Prop :=
  piece.IsHidden → ∃ blanked,
    edits.take piece.chars.length = List.replicate piece.chars.length (none, blanked)

/-- Every comment and every literal is blanked whole or not at all. -/
def AllUniform (edits : List Edit) : List Piece → Prop
  | [] => True
  | piece :: pieces =>
    IsUniform edits piece ∧ AllUniform (edits.drop piece.chars.length) pieces

/-- A line feed is kept by the scan and by the edits that fit. -/
theorem head?_applyEdits {rest : List Char} {edits : List Edit} (h : rest.head? = some '\n')
    (hfit : Fits (scrub rest) edits) : (applyEdits edits rest).head? = some '\n' := by
  obtain ⟨rest, rfl⟩ := List.head?_eq_some_iff.mp h
  cases edits with
  | nil => exact absurd hfit.length_eq (by simp [scrub, scan, scanFrom])
  | cons edit edits =>
    have hnone : edit.1 = none := hfit.eq_none (k := 0) (c := '\n') rfl rfl (by decide)
    rw [applyEdits, List.zipWith_cons_cons, hnone, replaceChar_newline, List.head?_cons]

/-- A comment or a literal ends where it ended: the line feeds of the source stay. -/
theorem endsBefore_edited {piece : Piece} {rest : List Char} {edits : List Edit}
    (hends : piece.EndsBefore rest) (hhidden : piece.IsHidden) (hfit : Fits (scrub rest) edits) :
    piece.EndsBefore (applyEdits edits rest) := by
  have hnil : rest = [] → applyEdits edits rest = [] := by
    rintro rfl
    simp [applyEdits]
  cases piece with
  | code c => exact absurd rfl (hhidden c)
  | lineComment body => exact ⟨hends.1, hends.2.imp hnil (head?_applyEdits · hfit)⟩
  | blockComment body closed => exact ⟨hends.1, hends.2.imp_right hnil⟩
  | literal quote body closed =>
    cases closed with
    | true => exact hends
    | false => exact ⟨hends.1, hends.2.imp hnil fun h => ⟨head?_applyEdits h.1 hfit, h.2⟩⟩

/-- A comment or a literal that is blanked whole or not at all becomes blanks, or stays. -/
theorem mapPiece_of_take {piece : Piece} {edits : List Edit} {blanked : Bool}
    (hhidden : piece.IsHidden) (htake : edits.take piece.chars.length =
      List.replicate piece.chars.length (none, blanked)) :
    mapPiece edits piece =
      if blanked then piece.chars.map fun c => .code (blankOut c) else [piece] := by
  have hhead : edits.head? = some (none, blanked) := by
    have hne : piece.chars.length ≠ 0 := piece.length_chars_pos.ne'
    have hfirst := congrArg List.head? htake
    rwa [List.head?_take, if_neg hne, List.head?_replicate, if_neg hne] at hfirst
  cases piece with
  | code c => exact absurd rfl (hhidden c)
  | _ => simp only [mapPiece, hhead, Option.any_some]

/-- The first piece of a mapped source is the mapped first piece. -/
theorem isSegmentation_mapPiece {piece : Piece} {rest : List Char} {edits : List Edit}
    {later : List Piece} (hends : piece.EndsBefore rest)
    (hfit : Fits (piece.scrubbed ++ scrub rest) edits) (huniform : IsUniform edits piece)
    (hlater : IsSegmentation later (applyEdits (edits.drop piece.chars.length) rest)) :
    IsSegmentation (mapPiece edits piece ++ later) (applyEdits edits (piece.chars ++ rest)) := by
  have hlength : piece.chars.length ≤ edits.length := by
    rw [hfit.length_eq, List.length_append, piece.length_scrubbed]
    omega
  rcases piece.code_or_isHidden with ⟨c, rfl⟩ | hhidden
  · obtain ⟨edit, edits, rfl⟩ := List.exists_cons_of_length_pos hlength
    have hedited : (Piece.code (replaceChar c edit.1 edit.2)).EndsBefore (applyEdits edits rest) :=
      not_opensPiece_edited hends hfit (forall₂_scan rest).length_eq.symm
    exact .cons hedited hlater
  · obtain ⟨blanked, htake⟩ := huniform hhidden
    rw [applyEdits_append _ _ hlength, mapPiece_of_take hhidden htake, htake]
    cases blanked with
    | true =>
      rw [applyEdits_blanked, if_pos rfl]
      exact isSegmentation_blanked hlater piece.chars
    | false =>
      have hrest : Fits (scrub rest) (edits.drop piece.chars.length) := by
        rw [← piece.length_scrubbed]
        exact hfit.drop
      rw [applyEdits_kept, if_neg (by decide)]
      exact .cons (endsBefore_edited hends hhidden hrest) hlater

/-- The first pieces of a mapped source are the mapped first pieces. -/
theorem isSegmentation_mapPieces {before after later : List Piece} {source : List Char}
    {edits : List Edit} (h : IsSegmentation (before ++ after) source)
    (hfit : Fits (scrub source) edits) (huniform : AllUniform edits before)
    (hlater : IsSegmentation later (applyEdits
      (edits.drop (before.flatMap Piece.chars).length)
      (source.drop (before.flatMap Piece.chars).length))) :
    IsSegmentation (mapPieces edits before ++ later) (applyEdits edits source) := by
  induction before generalizing source edits with
  | nil => exact hlater
  | cons piece before ih =>
    cases h with
    | @cons _ _ rest hends hrest =>
    have hscrub : scrub (piece.chars ++ rest) = piece.scrubbed ++ scrub rest := by
      rw [scrub_of_isSegmentation hrest, scrub_of_isSegmentation (.cons hends hrest),
        List.flatMap_cons]
    rw [hscrub] at hfit
    rw [List.flatMap_cons, List.length_append, ← List.drop_drop, ← List.drop_drop,
      List.drop_left] at hlater
    rw [mapPieces, List.append_assoc]
    refine isSegmentation_mapPiece hends hfit huniform.1 (ih hrest ?_ huniform.2 hlater)
    rw [← piece.length_scrubbed]
    exact hfit.drop

/-- Scrubbing a mapped piece is mapping the scrubbed piece. -/
theorem flatMap_scrubbed_mapPiece {piece : Piece} {edits : List Edit}
    (huniform : IsUniform edits piece) (hlength : piece.chars.length ≤ edits.length) :
    (mapPiece edits piece).flatMap Piece.scrubbed =
      applyEdits (edits.take piece.chars.length) piece.scrubbed := by
  rcases piece.code_or_isHidden with ⟨c, rfl⟩ | hhidden
  · obtain ⟨edit, edits, rfl⟩ := List.exists_cons_of_length_pos hlength
    rfl
  · obtain ⟨blanked, htake⟩ := huniform hhidden
    rw [mapPiece_of_take hhidden htake, htake, ← piece.length_scrubbed]
    cases blanked with
    | true =>
      rw [applyEdits_blanked, if_pos rfl, hhidden.scrubbed_eq, List.map_map, List.flatMap_map]
      simp [Piece.scrubbed, Function.comp_def, blankOut_blankOut, List.map_eq_flatMap]
    | false =>
      rw [applyEdits_kept, if_neg (by decide), List.flatMap_singleton]

/-- Scrubbing mapped pieces is mapping the scrubbed pieces. -/
theorem flatMap_scrubbed_mapPieces {pieces : List Piece} {edits : List Edit}
    (huniform : AllUniform edits pieces)
    (hlength : (pieces.flatMap Piece.chars).length ≤ edits.length) :
    (mapPieces edits pieces).flatMap Piece.scrubbed =
      applyEdits edits (pieces.flatMap Piece.scrubbed) := by
  induction pieces generalizing edits with
  | nil => simp [mapPieces, applyEdits]
  | cons piece pieces ih =>
    rw [List.flatMap_cons, List.length_append] at hlength
    have hfirst := flatMap_scrubbed_mapPiece huniform.1 (by omega)
    have hrest := ih huniform.2 (by rw [List.length_drop]; omega)
    rw [mapPieces, List.flatMap_append, hfirst, hrest, List.flatMap_cons,
      applyEdits_append _ _ (by rw [piece.length_scrubbed]; omega), piece.length_scrubbed]

end Dialect

end BrickLint
