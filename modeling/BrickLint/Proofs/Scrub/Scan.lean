import BrickLint.Proofs.Scrub.Segmentation

/-!
# The scan follows the segmentation

Started in code, the scan reads a piece of the source and is in code again. On its way it keeps
characters of code and line ends, blanks everything else, and notes a literal that has no closing
quote. Piece by piece this gives the scan of the whole source.
-/

namespace BrickLint

open Text

/-- How a scan leaves a character outside code. -/
def blankOut (c : Char) : Char :=
  if c = '\n' ∨ c = '\r' then c else ' '

/-- A scan behind characters that are no code. -/
def Scan.behind (chars : List Char) (scan : Scan) : Scan :=
  ⟨chars.map blankOut ++ scan.text, scan.unterminated⟩

/-- From one region to another the scan passes over characters outside code, when `rest` follows
them. -/
def Region.PassesOver (region : Region) (p : Position) (chars : List Char) (next : Region)
    (rest : List Char) : Prop :=
  scanFrom region p (chars ++ rest) =
    (scanFrom next (chars.foldl Position.advance p) rest).behind chars

namespace Region.PassesOver

variable {region middle next : Region} {p : Position} {chars rest : List Char}

/-- Nothing is passed over. -/
theorem nil : PassesOver region p [] region rest :=
  rfl

/-- What is passed over in two parts is passed over. -/
theorem append {more : List Char} (h : PassesOver region p chars middle (more ++ rest))
    (hmore : PassesOver middle (chars.foldl Position.advance p) more next rest) :
    PassesOver region p (chars ++ more) next rest := by
  unfold PassesOver at *
  rw [List.append_assoc, h, hmore, List.foldl_append]
  simp [Scan.behind]

/-- A step outside code blanks its character, unless it is a line end. -/
theorem of_step {c : Char}
    (h : region.step p c rest.head? = ⟨next, decide (c = '\n' ∨ c = '\r'), none⟩) :
    PassesOver region p [c] next rest := by
  simp [PassesOver, scanFrom, h, Scan.behind, blankOut]

/-- A step is followed by further ones. -/
theorem cons (middle : Region) {c : Char}
    (h : region.step p c (chars ++ rest).head? = ⟨middle, decide (c = '\n' ∨ c = '\r'), none⟩)
    (hchars : PassesOver middle (p.advance c) chars next rest) :
    PassesOver region p (c :: chars) next rest :=
  append (of_step h) hchars

/-- The inside of a line comment. -/
theorem lineComment (hbody : '\n' ∉ chars) :
    PassesOver .lineComment p chars .lineComment rest := by
  induction chars generalizing p with
  | nil => exact nil
  | cons c body ih =>
    obtain ⟨hc, hbody⟩ : '\n' ≠ c ∧ '\n' ∉ body := by simpa using hbody
    refine cons _ ?_ (ih hbody)
    by_cases hreturn : c = '\r' <;> simp [step, hc.symm, hreturn]

/-- The inside of a block comment, behind which no closing marker is completed. -/
theorem blockComment (hbody : ¬['*', '/'] <:+: chars) (hrest : rest.head? ≠ some '/') :
    PassesOver .blockComment p chars .blockComment rest := by
  induction chars generalizing p with
  | nil => exact nil
  | cons c body ih =>
    have hmarker : ¬(c = '*' ∧ (body ++ rest).head? = some '/') := by
      rintro ⟨rfl, hslash⟩
      cases body with
      | nil => exact hrest hslash
      | cons d body =>
        obtain rfl : d = '/' := by simpa using hslash
        exact hbody ⟨[], body, rfl⟩
    refine cons _ ?_ (ih fun h => hbody (List.infix_cons h))
    generalize (body ++ rest).head? = next at hmarker
    by_cases hfeed : c = '\n'
    · simp [step, hfeed, lineFeed]
    · by_cases hreturn : c = '\r' <;> simp [step, hfeed, hreturn, hmarker]

/-- A character of a literal that does not end it. The flag tells whether the next one is
escaped. -/
theorem step_literal {quote : Quote} {before : List Char} {c : Char}
    (hc : c = quote.mark ∨ c = '\n' → escapesNext before = true) (opened : Position)
    (following : Option Char) :
    step (.literal quote (escapesNext before) opened) p c following =
      ⟨.literal quote (escapesNext (before ++ [c])) opened, decide (c = '\n' ∨ c = '\r'),
        none⟩ := by
  rw [escapesNext_append]
  by_cases hfeed : c = '\n'
  · simp [step, lineFeed, hfeed, hc (Or.inr hfeed)]
  by_cases hreturn : c = '\r'
  · simp [step, hreturn]
  cases hescaped : escapesNext before with
  | true => simp [step, hfeed, hreturn]
  | false =>
    have hmark : c ≠ quote.mark := fun h => by simpa [hescaped] using hc (Or.inl h)
    by_cases hslash : c = '\\' <;> simp [step, hfeed, hreturn, hslash, hmark]

/-- The inside of a literal, of which `before` has been read. -/
theorem literal {quote : Quote} (before : List Char)
    (hbody : IsLiteralBody quote (before ++ chars)) (opened : Position) :
    PassesOver (.literal quote (escapesNext before) opened) p chars
      (.literal quote (escapesNext (before ++ chars)) opened) rest := by
  induction chars generalizing before p with
  | nil => simpa using nil
  | cons c body ih =>
    have hsplit : before ++ c :: body = before ++ [c] ++ body := by simp
    refine cons _ (step_literal (hbody before c body rfl) opened _) ?_
    rw [hsplit] at hbody ⊢
    exact ih _ hbody

/-- The opener of a line comment. -/
theorem lineOpener : PassesOver .code p ['/', '/'] .lineComment rest :=
  cons (.opening false) (by simp [step, codeStep]) (of_step (by simp [step]))

/-- The opener of a block comment. -/
theorem blockOpener : PassesOver .code p ['/', '*'] .blockComment rest :=
  cons (.opening true) (by simp [step, codeStep]) (of_step (by simp [step]))

/-- The closing marker of a block comment. -/
theorem blockCloser : PassesOver .blockComment p ['*', '/'] .code rest :=
  cons .closing (by simp [step]) (of_step (by simp [step]))

/-- A quote in code opens a literal. -/
theorem openingQuote (quote : Quote) :
    PassesOver .code p [quote.mark] (.literal quote (escapesNext []) p) rest :=
  of_step (by cases quote <;> simp [step, codeStep, Quote.mark, Quote.ofMark?, escapesNext,
    isEscapedBy])

/-- A matching quote that is not escaped closes a literal. -/
theorem closingQuote (quote : Quote) (opened : Position) :
    PassesOver (.literal quote false opened) p [quote.mark] .code rest :=
  of_step (by cases quote <;> simp [step, Quote.mark])

end Region.PassesOver

/-- What a scan leaves of a piece. -/
def Piece.scrubbed : Piece → List Char
  | .code c => [c]
  | piece => piece.chars.map blankOut

/-- The scan of a piece, which starts at position `p`, in front of the scan of the rest. -/
def Piece.scanBefore (piece : Piece) (p : Position) (rest : Scan) : Scan :=
  ⟨piece.scrubbed ++ rest.text, (piece.openLiteral? p).toList ++ rest.unterminated⟩

/-- A character of code is kept. -/
theorem Region.step_code {c : Char} {next : Option Char} (h : ¬OpensPiece c next) (p : Position) :
    Region.step .code p c next = ⟨.code, true, none⟩ := by
  simp only [OpensPiece, not_or, not_and] at h
  obtain ⟨hdouble, hsingle, hslash⟩ := h
  have hmark : Quote.ofMark? c = none := by simp [Quote.ofMark?, hdouble, hsingle]
  have hline : ¬(c = '/' ∧ next = some '/') := fun h => (hslash h.1).1 h.2
  have hblock : ¬(c = '/' ∧ next = some '*') := fun h => (hslash h.1).2 h.2
  by_cases hfeed : c = '\n'
  · simp [Region.step, Region.lineFeed, hfeed]
  by_cases hreturn : c = '\r'
  · simp [Region.step, hreturn]
  simp [Region.step, hfeed, hreturn, Region.codeStep, hline, hblock, hmark]

/-- A line comment ends in code, before the line feed that ends it. -/
theorem scanFrom_lineComment_end {rest : List Char} (hrest : rest = [] ∨ rest.head? = some '\n')
    (p : Position) : scanFrom .lineComment p rest = scanFrom .code p rest := by
  rcases hrest with rfl | hfeed
  · rfl
  · obtain ⟨rest, rfl⟩ := List.head?_eq_some_iff.mp hfeed
    rfl

/-- A literal that ends without a closing quote is noted. -/
theorem scanFrom_literal_end {quote : Quote} {body rest : List Char}
    (hends : (Piece.literal quote body false).EndsBefore rest) (opened p : Position) :
    scanFrom (.literal quote (escapesNext body) opened) p rest =
      ⟨(scanFrom .code p rest).text, ⟨quote, opened⟩ :: (scanFrom .code p rest).unterminated⟩ := by
  rcases hends.2 with rfl | ⟨hfeed, hescaped⟩
  · rfl
  · obtain ⟨rest, rfl⟩ := List.head?_eq_some_iff.mp hfeed
    rw [hescaped]
    rfl

/-- Started in code, the scan reads a piece and is in code again. -/
theorem scanFrom_piece {piece : Piece} {rest : List Char} (hends : piece.EndsBefore rest)
    (p : Position) :
    scanFrom .code p (piece.chars ++ rest) =
      piece.scanBefore p (scanFrom .code (piece.chars.foldl Position.advance p) rest) := by
  cases piece with
  | code c =>
    simp [Piece.chars, scanFrom, Region.step_code hends, Piece.scanBefore, Piece.scrubbed,
      Piece.openLiteral?]
  | lineComment body =>
    have hpass : Region.PassesOver .code p (['/', '/'] ++ body) .lineComment rest :=
      .append .lineOpener (.lineComment hends.1)
    rw [Region.PassesOver, scanFrom_lineComment_end hends.2] at hpass
    exact hpass
  | blockComment body closed =>
    cases closed with
    | true =>
      exact Region.PassesOver.append .blockOpener
        (.append (.blockComment hends.1 (by simp)) .blockCloser)
    | false =>
      obtain rfl : rest = [] := by simpa using hends.2
      have hchars : (Piece.blockComment body false).chars = ['/', '*'] ++ body := by
        simp [Piece.chars]
      change Region.PassesOver .code p (Piece.blockComment body false).chars .code []
      rw [hchars]
      exact Region.PassesOver.append .blockOpener (.blockComment hends.1 (by simp))
  | literal quote body closed =>
    have hinside : ∀ q rest, Region.PassesOver (.literal quote (escapesNext []) p) q body
        (.literal quote (escapesNext body) p) rest := fun q rest =>
      Region.PassesOver.literal [] (isLiteralBody_of_endsBefore hends) p
    cases closed with
    | true =>
      rw [hends.2] at hinside
      exact Region.PassesOver.append (.openingQuote quote)
        (.append (hinside _ _) (.closingQuote quote p))
    | false =>
      have hpass := Region.PassesOver.append (.openingQuote quote) (hinside _ rest)
      have hchars : (Piece.literal quote body false).chars = [quote.mark] ++ body := by
        simp [Piece.chars]
      rw [Region.PassesOver, scanFrom_literal_end hends] at hpass
      rw [Piece.scanBefore, Piece.scrubbed, hchars]
      · exact hpass
      · rintro _ ⟨⟩

/-- The position behind a start of a text. -/
theorem positionAt_append (seen rest : List Char) :
    positionAt (seen ++ rest) seen.length = seen.foldl Position.advance .start := by
  simp [positionAt]

/-- The scan of the rest of a source, of which the pieces are known. -/
theorem scanFrom_isSegmentation {pieces : List Piece} {rest : List Char}
    (h : IsSegmentation pieces rest) (seen : List Char) :
    scanFrom .code (seen.foldl Position.advance .start) rest =
      ⟨pieces.flatMap Piece.scrubbed, openLiterals (seen ++ rest) seen.length pieces⟩ := by
  induction h generalizing seen with
  | nil => rfl
  | @cons piece pieces rest hends _ ih =>
    have hnext := ih (seen ++ piece.chars)
    rw [List.foldl_append, List.append_assoc, List.length_append] at hnext
    rw [scanFrom_piece hends, hnext, Piece.scanBefore, openLiterals, positionAt_append,
      List.flatMap_cons]

/-- The pieces of a source make up the source. -/
theorem IsSegmentation.flatMap_chars {pieces : List Piece} {source : List Char}
    (h : IsSegmentation pieces source) : pieces.flatMap Piece.chars = source := by
  induction h with
  | nil => rfl
  | cons _ _ ih => rw [List.flatMap_cons, ih]

/-- Scrubbing keeps the length of a piece. -/
theorem Piece.length_scrubbed (piece : Piece) : piece.scrubbed.length = piece.chars.length := by
  cases piece <;> simp [Piece.scrubbed, Piece.chars]

/-- An offset in code is the place of a piece of code, or lies behind the first piece. -/
theorem inCode_cons {piece : Piece} {pieces : List Piece} {offset : Nat} :
    InCode (piece :: pieces) offset ↔
      (offset = 0 ∧ ∃ c, piece = .code c) ∨
        ∃ later, offset = piece.chars.length + later ∧ InCode pieces later := by
  constructor
  · rintro ⟨before, c, after, hsplit, rfl⟩
    cases before with
    | nil => exact Or.inl ⟨rfl, c, (List.cons.inj hsplit).1⟩
    | cons first before =>
      obtain ⟨rfl, rfl⟩ := List.cons.inj hsplit
      exact Or.inr ⟨_, by simp, before, c, after, rfl, rfl⟩
  · rintro (⟨rfl, c, rfl⟩ | ⟨later, rfl, before, c, after, rfl, rfl⟩)
    · exact ⟨[], c, pieces, rfl, rfl⟩
    · exact ⟨piece :: before, c, after, rfl, by simp⟩

/-- A character of a source is kept in code, and left as outside code elsewhere. -/
theorem getElem?_scrubbed {pieces : List Piece} {offset : Nat} {c : Char}
    (h : (pieces.flatMap Piece.chars)[offset]? = some c) :
    (InCode pieces offset ∧ (pieces.flatMap Piece.scrubbed)[offset]? = some c) ∨
      (¬InCode pieces offset ∧ (pieces.flatMap Piece.scrubbed)[offset]? = some (blankOut c)) := by
  induction pieces generalizing offset with
  | nil => simp at h
  | cons piece pieces ih =>
    rw [List.flatMap_cons] at h ⊢
    by_cases hfirst : offset < piece.chars.length
    · rw [List.getElem?_append_left hfirst] at h
      rw [List.getElem?_append_left (by rwa [piece.length_scrubbed])]
      have hnot : ¬∃ later, offset = piece.chars.length + later ∧ InCode pieces later := by
        rintro ⟨later, rfl, _⟩
        omega
      simp only [inCode_cons, hnot, or_false]
      cases piece with
      | code d =>
        obtain rfl : offset = 0 := by simpa [Piece.chars] using hfirst
        exact Or.inl ⟨⟨rfl, d, rfl⟩, h⟩
      | _ => exact Or.inr ⟨by simp, by simp [Piece.scrubbed, h]⟩
    · obtain ⟨later, rfl⟩ : ∃ later, offset = piece.chars.length + later :=
        ⟨offset - piece.chars.length, by omega⟩
      have hlength := piece.length_scrubbed
      have hpos := piece.length_chars_pos
      rw [List.getElem?_append_right (by omega), Nat.add_sub_cancel_left] at h
      rw [List.getElem?_append_right (by omega), hlength, Nat.add_sub_cancel_left]
      have hin : InCode (piece :: pieces) (piece.chars.length + later) ↔ InCode pieces later := by
        rw [inCode_cons]
        constructor
        · rintro (⟨hzero, _⟩ | ⟨other, hother, hin⟩)
          · omega
          · rwa [Nat.add_left_cancel hother]
        · exact fun hin => Or.inr ⟨later, rfl, hin⟩
      rw [hin]
      exact ih h

/-- Every source has one segmentation, and the scan of the source shows it. -/
theorem scan_shows_segmentation (source : List Char) :
    (∃! pieces, IsSegmentation pieces source) ∧
      ∀ pieces, IsSegmentation pieces source → (scan source).Shows source pieces := by
  constructor
  · obtain ⟨pieces, hpieces⟩ := exists_isSegmentation source
    exact ⟨pieces, hpieces, fun other hother => hother.unique hpieces⟩
  · intro pieces hpieces
    have hscan : scan source =
        ⟨pieces.flatMap Piece.scrubbed, openLiterals source 0 pieces⟩ :=
      scanFrom_isSegmentation hpieces []
    have hsource := hpieces.flatMap_chars
    refine ⟨?_, ?_, ?_, by rw [hscan]⟩
    · rw [hscan, ← hsource]
      simp [List.length_flatMap, Piece.length_scrubbed]
    · intro offset c hc hkept
      rw [hscan]
      rcases getElem?_scrubbed (hsource.symm ▸ hc) with ⟨_, htext⟩ | ⟨hnot, htext⟩
      · exact htext
      · have hend : c = '\n' ∨ c = '\r' := hkept.resolve_left hnot
        rwa [blankOut, if_pos hend] at htext
    · intro offset c hc hnot hfeed hreturn
      rw [hscan]
      rcases getElem?_scrubbed (hsource.symm ▸ hc) with ⟨hin, _⟩ | ⟨_, htext⟩
      · exact absurd hin hnot
      · rwa [blankOut, if_neg (by simp [hfeed, hreturn])] at htext

end BrickLint
