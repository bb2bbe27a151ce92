import BrickLint.Region
import Mathlib.Data.List.Infix

/-!
# Segmentation of a source

A source falls into pieces from left to right: characters of code, comments and literals. What a
piece is depends on how it starts, and where it ends is said without a scanner: a line comment ends
before the first line feed, a block comment with the first closing marker behind its opener, and a
literal with the first closing quote, or before the first line feed, that is not escaped. Every
source has exactly one segmentation, and the scan blanks everything in it that is not code.
-/

namespace BrickLint

open Text

/-- A piece of a source. Comments and literals are given by what stands between their markers. -/
inductive Piece where
  /-- A character of code. -/
  | code (c : Char)
  /-- A comment that runs to the end of its line. -/
  | lineComment (body : List Char)
  /-- A comment between markers, of which the closing one may be missing. -/
  | blockComment (body : List Char) (closed : Bool)
  /-- A literal, of which the closing quote may be missing. -/
  | literal (quote : Quote) (body : List Char) (closed : Bool)
  deriving DecidableEq, Repr

/-- The characters of a piece, markers included. -/
def Piece.chars : Piece → List Char
  | .code c => [c]
  | .lineComment body => '/' :: '/' :: body
  | .blockComment body closed => '/' :: '*' :: (body ++ if closed then ['*', '/'] else [])
  | .literal quote body closed => quote.mark :: (body ++ if closed then [quote.mark] else [])

/-- A character opens a comment or a literal when `next` follows it. -/
def OpensPiece (c : Char) (next : Option Char) : Prop :=
  c = '"' ∨ c = '\'' ∨ (c = '/' ∧ (next = some '/' ∨ next = some '*'))

/-- Whether a character of a literal is escaped, given what stands before it in the literal, nearest
character first. Behind carriage returns, which are passed over, there is a backslash that is not
escaped itself. -/
def isEscapedBy : List Char → Bool
  | [] => false
  | c :: before => if c = '\r' then isEscapedBy before else c == '\\' && !isEscapedBy before

/-- Whether the next character of a literal is escaped behind `body`. -/
def escapesNext (body : List Char) : Bool :=
  isEscapedBy body.reverse

/-- In the inside of a literal every matching quote and every line feed is escaped. -/
def IsLiteralBody (quote : Quote) (body : List Char) : Prop :=
  ∀ before c after, body = before ++ c :: after → c = quote.mark ∨ c = '\n' →
    escapesNext before = true

/-- A piece ends as it should when `rest` follows it. -/
def Piece.EndsBefore (rest : List Char) : Piece → Prop
  | .code c => ¬OpensPiece c rest.head?
  | .lineComment body => '\n' ∉ body ∧ (rest = [] ∨ rest.head? = some '\n')
  | .blockComment body closed => ¬['*', '/'] <:+: body ∧ (closed = true ∨ rest = [])
  | .literal quote body true => IsLiteralBody quote body ∧ escapesNext body = false
  | .literal quote body false =>
    IsLiteralBody quote body ∧ (rest = [] ∨ (rest.head? = some '\n' ∧ escapesNext body = false))

/-- The pieces of a source, from left to right. -/
inductive IsSegmentation : List Piece → List Char → Prop
  /-- An empty source has no pieces. -/
  | nil : IsSegmentation [] []
  /-- A piece is followed by the pieces of the rest. -/
  | cons {piece : Piece} {pieces : List Piece} {rest : List Char} (hends : piece.EndsBefore rest)
      (hrest : IsSegmentation pieces rest) : IsSegmentation (piece :: pieces) (piece.chars ++ rest)

/-- An offset stands in code. -/
def InCode (pieces : List Piece) (offset : Nat) : Prop :=
  ∃ before c after, pieces = before ++ Piece.code c :: after ∧
    (before.flatMap Piece.chars).length = offset

/-- A piece that starts at position `p`, as a literal without its closing quote. -/
def Piece.openLiteral? (p : Position) : Piece → Option OpenLiteral
  | .literal quote _ false => some ⟨quote, p⟩
  | _ => none

/-- The literals without a closing quote among the pieces of a source from `offset` on, with the
positions at which they start. -/
def openLiterals (source : List Char) (offset : Nat) : List Piece → List OpenLiteral
  | [] => []
  | piece :: pieces =>
    (piece.openLiteral? (positionAt source offset)).toList ++
      openLiterals source (offset + piece.chars.length) pieces

/-- A scan tells the pieces of a source apart. -/
structure Scan.Shows (scan : Scan) (source : List Char) (pieces : List Piece) : Prop where
  /-- No character is added or dropped. -/
  length_text : scan.text.length = source.length
  /-- Code and line ends are kept. -/
  kept : ∀ offset c, source[offset]? = some c → InCode pieces offset ∨ c = '\n' ∨ c = '\r' →
    scan.text[offset]? = some c
  /-- Everything else is blanked. -/
  blanked : ∀ offset c, source[offset]? = some c → ¬InCode pieces offset → c ≠ '\n' → c ≠ '\r' →
    scan.text[offset]? = some ' '
  /-- The literals without a closing quote are listed in text order. -/
  unterminated : scan.unterminated = openLiterals source 0 pieces

/-- A carriage return keeps an escape, and any other character ends it; a backslash that is not
escaped starts one. -/
theorem escapesNext_append (body : List Char) (c : Char) :
    escapesNext (body ++ [c]) =
      if c = '\r' then escapesNext body else c == '\\' && !escapesNext body := by
  simp [escapesNext, isEscapedBy]

/-- The inside of a literal goes on with a character that does not end it. -/
theorem isLiteralBody_append {quote : Quote} {body : List Char} {c : Char}
    (hbody : IsLiteralBody quote body) (hc : c = quote.mark ∨ c = '\n' → escapesNext body = true) :
    IsLiteralBody quote (body ++ [c]) := by
  intro before d after hsplit hd
  rcases List.eq_nil_or_concat after with rfl | ⟨init, last, rfl⟩
  · obtain ⟨rfl, hlast⟩ := List.append_inj' hsplit rfl
    obtain rfl : c = d := by simpa using hlast
    exact hc hd
  · have hsplit' : body ++ [c] = (before ++ d :: init) ++ [last] := by simpa using hsplit
    exact hbody before d init (List.append_inj' hsplit' rfl).1 hd

/-- Behind the opener of a block comment there is a first closing marker, or none at all. -/
theorem exists_blockEnd (cs : List Char) :
    ¬['*', '/'] <:+: cs ∨
      ∃ body rest, cs = body ++ '*' :: '/' :: rest ∧ ¬['*', '/'] <:+: body := by
  induction cs with
  | nil => exact Or.inl (by simp)
  | cons c cs ih =>
    by_cases hmarker : ['*', '/'] <+: c :: cs
    · obtain ⟨rest, hrest⟩ := hmarker
      exact Or.inr ⟨[], rest, by simpa using hrest.symm, by simp⟩
    · rcases ih with hnone | ⟨body, rest, rfl, hbody⟩
      · exact Or.inl fun hinfix => (List.infix_cons_iff.mp hinfix).elim hmarker hnone
      · refine Or.inr ⟨c :: body, rest, rfl, fun hinfix => ?_⟩
        rcases List.infix_cons_iff.mp hinfix with hstart | hlater
        · exact hmarker (hstart.trans (List.prefix_append (c :: body) ('*' :: '/' :: rest)))
        · exact hbody hlater

/-- Behind the start `before` of a literal there is a first character that ends the literal, or
none at all. -/
theorem exists_literalEnd {quote : Quote} {before : List Char}
    (hbefore : IsLiteralBody quote before) (cs : List Char) :
    ∃ body rest, before ++ cs = body ++ rest ∧ IsLiteralBody quote body ∧
      (rest = [] ∨ ((rest.head? = some quote.mark ∨ rest.head? = some '\n') ∧
        escapesNext body = false)) := by
  induction cs generalizing before with
  | nil => exact ⟨before, [], rfl, hbefore, Or.inl rfl⟩
  | cons c cs ih =>
    by_cases hstop : (c = quote.mark ∨ c = '\n') ∧ escapesNext before = false
    · exact ⟨before, c :: cs, rfl, hbefore, Or.inr (by simpa using hstop)⟩
    · have hnext : IsLiteralBody quote (before ++ [c]) :=
        isLiteralBody_append hbefore fun hc => by
          by_contra hescaped
          exact hstop ⟨hc, by simpa using hescaped⟩
      obtain ⟨body, rest, hsplit, hbody, hrest⟩ := ih hnext
      exact ⟨body, rest, by simpa using hsplit, hbody, hrest⟩

/-- A literal that a quote opens is a piece. -/
theorem exists_literal (quote : Quote) (cs : List Char) :
    ∃ piece rest, quote.mark :: cs = Piece.chars piece ++ rest ∧ piece.EndsBefore rest := by
  have hempty : IsLiteralBody quote [] := by simp [IsLiteralBody]
  obtain ⟨body, rest, hsplit, hbody, hrest⟩ := exists_literalEnd hempty cs
  obtain rfl : cs = body ++ rest := by simpa using hsplit
  rcases hrest with rfl | ⟨hmark | hfeed, hescaped⟩
  · exact ⟨.literal quote body false, [], by simp [Piece.chars], hbody, Or.inl rfl⟩
  · obtain ⟨rest, rfl⟩ := List.head?_eq_some_iff.mp hmark
    exact ⟨.literal quote body true, rest, by simp [Piece.chars], hbody, hescaped⟩
  · exact ⟨.literal quote body false, rest, by simp [Piece.chars], hbody, Or.inr ⟨hfeed, hescaped⟩⟩

/-- A source that is not empty starts with a piece. -/
theorem exists_piece (c : Char) (cs : List Char) :
    ∃ piece rest, c :: cs = Piece.chars piece ++ rest ∧ piece.EndsBefore rest := by
  by_cases hopens : OpensPiece c cs.head?
  · rcases hopens with rfl | rfl | ⟨rfl, hline | hblock⟩
    · exact exists_literal .double cs
    · exact exists_literal .single cs
    · obtain ⟨cs, rfl⟩ := List.head?_eq_some_iff.mp hline
      refine ⟨.lineComment (cs.takeWhile (· != '\n')), cs.dropWhile (· != '\n'),
        by simp [Piece.chars], fun hmem => ?_, ?_⟩
      · simpa using List.all_eq_true.mp List.all_takeWhile _ hmem
      · cases hrest : cs.dropWhile (· != '\n') with
        | nil => exact Or.inl rfl
        | cons d rest =>
          have hd := List.head?_dropWhile_not (· != '\n') cs
          rw [hrest] at hd
          exact Or.inr (by simpa using hd)
    · obtain ⟨cs, rfl⟩ := List.head?_eq_some_iff.mp hblock
      rcases exists_blockEnd cs with hnone | ⟨body, rest, rfl, hbody⟩
      · exact ⟨.blockComment cs false, [], by simp [Piece.chars], hnone, Or.inr rfl⟩
      · exact ⟨.blockComment body true, rest, by simp [Piece.chars], hbody, Or.inl rfl⟩
  · exact ⟨.code c, cs, rfl, hopens⟩

/-- No piece is empty. -/
theorem Piece.length_chars_pos (piece : Piece) : 0 < piece.chars.length := by
  cases piece <;> simp [Piece.chars]

/-- Every source has a segmentation. -/
theorem exists_isSegmentation (source : List Char) : ∃ pieces, IsSegmentation pieces source := by
  induction hlength : source.length using Nat.strong_induction_on generalizing source with
  | _ n ih =>
    cases source with
    | nil => exact ⟨[], .nil⟩
    | cons c cs =>
      obtain ⟨piece, rest, hsplit, hends⟩ := exists_piece c cs
      have hshorter : rest.length < n := by
        have hpos := piece.length_chars_pos
        rw [← hlength, hsplit, List.length_append]
        omega
      obtain ⟨pieces, hpieces⟩ := ih rest.length hshorter rest rfl
      exact ⟨piece :: pieces, hsplit ▸ .cons hends hpieces⟩

/-- Two ways to cut a text are the same when neither first part goes on where the other one
stops. -/
theorem eq_of_append_eq_append {body body' rest rest' : List Char}
    (h : body ++ rest = body' ++ rest')
    (hshort : ∀ c after, body' = body ++ c :: after → rest = c :: (after ++ rest') → False)
    (hlong : ∀ c after, body = body' ++ c :: after → rest' = c :: (after ++ rest) → False) :
    body = body' ∧ rest = rest' := by
  rcases List.append_eq_append_iff.mp h with ⟨middle, hbody, hrest⟩ | ⟨middle, hbody, hrest⟩
  · cases middle with
    | nil => exact ⟨by simpa using hbody.symm, by simpa using hrest⟩
    | cons c after => exact (hshort c after hbody hrest).elim
  · cases middle with
    | nil => exact ⟨by simpa using hbody, by simpa using hrest.symm⟩
    | cons c after => exact (hlong c after hbody hrest).elim

/-- A line comment does not go on where another one stops. -/
theorem lineComment_stops {body after more rest : List Char} {c : Char}
    (hends : (Piece.lineComment body).EndsBefore (c :: more))
    (hother : (Piece.lineComment (body ++ c :: after)).EndsBefore rest) : False := by
  have hfeed : c = '\n' := by simpa using hends.2
  exact hother.1 (by simp [hfeed])

/-- A block comment does not go on where another one stops. -/
theorem blockComment_stops {body after rest rest' : List Char} {closed closed' : Bool} {c : Char}
    (hends : (Piece.blockComment body closed).EndsBefore rest)
    (hother : (Piece.blockComment (body ++ c :: after) closed').EndsBefore rest')
    (htail : (if closed then ['*', '/'] else []) ++ rest =
      c :: (after ++ ((if closed' then ['*', '/'] else []) ++ rest'))) : False := by
  cases closed with
  | false =>
    obtain rfl : rest = [] := by simpa using hends.2
    simp at htail
  | true =>
    obtain ⟨rfl, hslash⟩ : '*' = c ∧ '/' :: rest =
        after ++ ((if closed' then ['*', '/'] else []) ++ rest') := by simpa using htail
    cases after with
    | nil =>
      -- Half of the closing marker is left over.
      cases closed' with
      | true => simp at hslash
      | false =>
        obtain rfl : rest' = [] := by simpa using hother.2
        simp at hslash
    | cons d after =>
      obtain rfl : '/' = d := (List.cons.inj hslash).1
      exact hother.1 ⟨body, after, by simp⟩

/-- What follows the inside of a literal ends it: nothing, or a matching quote or a line feed that
is not escaped. -/
theorem literal_ends {quote : Quote} {body rest : List Char} {closed : Bool}
    (hends : (Piece.literal quote body closed).EndsBefore rest) {c : Char} {more : List Char}
    (htail : (if closed then [quote.mark] else []) ++ rest = c :: more) :
    (c = quote.mark ∨ c = '\n') ∧ escapesNext body = false := by
  cases closed with
  | true =>
    obtain ⟨rfl, _⟩ : quote.mark = c ∧ rest = more := by simpa using htail
    exact ⟨Or.inl rfl, hends.2⟩
  | false =>
    obtain rfl : rest = c :: more := by simpa using htail
    have hfeed : c = '\n' ∧ escapesNext body = false := by simpa using hends.2
    exact ⟨Or.inr hfeed.1, hfeed.2⟩

/-- The inside of a literal is the inside whatever its end. -/
theorem isLiteralBody_of_endsBefore {quote : Quote} {body rest : List Char} {closed : Bool}
    (hends : (Piece.literal quote body closed).EndsBefore rest) : IsLiteralBody quote body := by
  cases closed <;> exact hends.1

/-- A literal does not go on where another one stops. -/
theorem literal_stops {quote : Quote} {body after rest rest' more : List Char}
    {closed closed' : Bool} {c : Char} (hends : (Piece.literal quote body closed).EndsBefore rest)
    (hother : (Piece.literal quote (body ++ c :: after) closed').EndsBefore rest')
    (htail : (if closed then [quote.mark] else []) ++ rest = c :: more) : False := by
  obtain ⟨hstop, hescaped⟩ := literal_ends hends htail
  have hkept := isLiteralBody_of_endsBefore hother body c after rfl hstop
  simp [hescaped] at hkept

/-- A piece that is no character of code starts with a marker. -/
theorem Piece.exists_opensPiece (piece : Piece) (rest : List Char) :
    (∃ c, piece = .code c) ∨ ∃ c cs, piece.chars ++ rest = c :: cs ∧ OpensPiece c cs.head? := by
  cases piece with
  | code c => exact Or.inl ⟨c, rfl⟩
  | lineComment body => exact Or.inr ⟨_, _, rfl, by simp [OpensPiece]⟩
  | blockComment body closed => exact Or.inr ⟨_, _, rfl, by simp [OpensPiece]⟩
  | literal quote body closed =>
    exact Or.inr ⟨_, _, rfl, by cases quote <;> simp [OpensPiece, Quote.mark]⟩

/-- A text that starts with a character of code starts with no other piece. -/
theorem eq_code_of_append_eq {c : Char} {other : Piece} {rest rest' : List Char}
    (hends : (Piece.code c).EndsBefore rest)
    (h : (Piece.code c).chars ++ rest = other.chars ++ rest') : Piece.code c = other := by
  rcases other.exists_opensPiece rest' with ⟨d, rfl⟩ | ⟨d, cs, hchars, hopens⟩
  · obtain ⟨rfl, _⟩ : c = d ∧ rest = rest' := by simpa [Piece.chars] using h
    rfl
  · obtain ⟨rfl, rfl⟩ := List.cons.inj (h.trans hchars)
    exact absurd hopens hends

/-- Comments of the same inside have the same end. -/
theorem blockComment_unique {body body' rest rest' : List Char} {closed closed' : Bool}
    (hends : (Piece.blockComment body closed).EndsBefore rest)
    (hother : (Piece.blockComment body' closed').EndsBefore rest')
    (h : body ++ ((if closed then ['*', '/'] else []) ++ rest) =
      body' ++ ((if closed' then ['*', '/'] else []) ++ rest')) :
    body = body' ∧ closed = closed' := by
  obtain ⟨rfl, htail⟩ := eq_of_append_eq_append h
    (by rintro c after rfl htail; exact blockComment_stops hends hother htail)
    (by rintro c after rfl htail; exact blockComment_stops hother hends htail)
  refine ⟨rfl, ?_⟩
  cases closed <;> cases closed'
  · rfl
  · obtain rfl : rest = [] := by simpa using hends.2
    simp at htail
  · obtain rfl : rest' = [] := by simpa using hother.2
    simp at htail
  · rfl

/-- A quote is no line feed. -/
theorem Quote.mark_ne_newline (quote : Quote) : quote.mark ≠ '\n' := by
  cases quote <;> decide

/-- A literal without its closing quote does not stop before a matching quote. -/
theorem literal_not_closed {quote : Quote} {body rest : List Char} :
    ¬(Piece.literal quote body false).EndsBefore (quote.mark :: rest) := by
  rintro ⟨_, hnil | ⟨hfeed, _⟩⟩
  · simp at hnil
  · exact quote.mark_ne_newline (by simpa using hfeed)

/-- Literals of the same kind that start at the same place are the same. -/
theorem literal_unique {quote : Quote} {body body' rest rest' : List Char} {closed closed' : Bool}
    (hends : (Piece.literal quote body closed).EndsBefore rest)
    (hother : (Piece.literal quote body' closed').EndsBefore rest')
    (h : body ++ ((if closed then [quote.mark] else []) ++ rest) =
      body' ++ ((if closed' then [quote.mark] else []) ++ rest')) :
    body = body' ∧ closed = closed' := by
  obtain ⟨rfl, htail⟩ := eq_of_append_eq_append h
    (by rintro c after rfl htail; exact literal_stops hends hother htail)
    (by rintro c after rfl htail; exact literal_stops hother hends htail)
  refine ⟨rfl, ?_⟩
  cases closed <;> cases closed'
  · rfl
  · obtain rfl : rest = quote.mark :: rest' := by simpa using htail
    exact absurd hends literal_not_closed
  · obtain rfl : quote.mark :: rest = rest' := by simpa using htail
    exact absurd hother literal_not_closed
  · rfl

/-- A text starts with one piece only. -/
theorem piece_unique {piece other : Piece} {rest rest' : List Char}
    (hends : piece.EndsBefore rest) (hother : other.EndsBefore rest')
    (h : piece.chars ++ rest = other.chars ++ rest') : piece = other := by
  cases piece with
  | code c => exact eq_code_of_append_eq hends h
  | lineComment body =>
    cases other with
    | code c => exact (eq_code_of_append_eq hother h.symm).symm
    | lineComment body' =>
      obtain ⟨rfl, _⟩ := eq_of_append_eq_append (show body ++ rest = body' ++ rest' by
          simpa [Piece.chars] using h)
        (by rintro c after rfl rfl; exact lineComment_stops hends hother)
        (by rintro c after rfl rfl; exact lineComment_stops hother hends)
      rfl
    | blockComment body' closed => simp [Piece.chars] at h
    | literal quote body' closed => cases quote <;> simp [Piece.chars, Quote.mark] at h
  | blockComment body closed =>
    cases other with
    | code c => exact (eq_code_of_append_eq hother h.symm).symm
    | lineComment body' => simp [Piece.chars] at h
    | blockComment body' closed' =>
      obtain ⟨rfl, rfl⟩ := blockComment_unique hends hother (by simpa [Piece.chars] using h)
      rfl
    | literal quote body' closed => cases quote <;> simp [Piece.chars, Quote.mark] at h
  | literal quote body closed =>
    cases other with
    | code c => exact (eq_code_of_append_eq hother h.symm).symm
    | lineComment body' => cases quote <;> simp [Piece.chars, Quote.mark] at h
    | blockComment body' closed' => cases quote <;> simp [Piece.chars, Quote.mark] at h
    | literal quote' body' closed' =>
      obtain rfl : quote = quote' := by
        cases quote <;> cases quote' <;> simp_all [Piece.chars, Quote.mark]
      obtain ⟨rfl, rfl⟩ := literal_unique hends hother (by simpa [Piece.chars] using h)
      rfl

/-- No source has two segmentations. -/
theorem IsSegmentation.unique {pieces pieces' : List Piece} {source : List Char}
    (h : IsSegmentation pieces source) (h' : IsSegmentation pieces' source) :
    pieces = pieces' := by
  induction h generalizing pieces' with
  | nil =>
    generalize hsource : ([] : List Char) = source at h'
    cases h' with
    | nil => rfl
    | @cons piece _ rest hends hrest =>
      have hpos := piece.length_chars_pos
      simp [(List.append_eq_nil_iff.mp hsource.symm).1] at hpos
  | @cons piece pieces rest hends hrest ih =>
    generalize hsource : piece.chars ++ rest = source at h'
    cases h' with
    | nil =>
      have hpos := piece.length_chars_pos
      simp [(List.append_eq_nil_iff.mp hsource).1] at hpos
    | @cons piece' pieces' rest' hends' hrest' =>
      obtain rfl := piece_unique hends hends' hsource
      obtain rfl := List.append_cancel_left hsource
      rw [ih hrest']

end BrickLint
