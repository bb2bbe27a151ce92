import BrickLint.Proofs.Scrub.Scan
import BrickLint.Statement

/-!
# Lines are scanned on their own

A literal ends with its line unless the line feed is escaped, and so does a line comment; only a
block comment goes on. So in a source of lines that open no block comment and do not end in a
backslash, the scan is in code again at the start of every line: what it shows of the source is
what it shows of the lines one by one.
-/

namespace BrickLint

open Text

/-- Nothing that a line opens goes on behind its line feed. -/
structure IsClosedLine (line : List Char) : Prop where
  /-- It is one line. -/
  no_feed : '\n' ∉ line
  /-- It holds no opener of a block comment. -/
  no_block : ¬['/', '*'] <:+: line
  /-- Carriage returns apart, it does not end in a backslash. -/
  no_backslash : (dropAllReturns line).getLast? ≠ some '\\'

instance (line : List Char) : Decidable (IsClosedLine line) :=
  decidable_of_iff
    ('\n' ∉ line ∧ ¬['/', '*'] <:+: line ∧ (dropAllReturns line).getLast? ≠ some '\\')
    ⟨fun ⟨hfeed, hblock, hslash⟩ => ⟨hfeed, hblock, hslash⟩,
      fun h => ⟨h.no_feed, h.no_block, h.no_backslash⟩⟩

/-- The last character of a text, carriage returns apart, is the last one of its end. -/
theorem getLast?_dropAllReturns_append (lead : List Char) {line : List Char} {c : Char}
    (h : (dropAllReturns line).getLast? = some c) :
    (dropAllReturns (lead ++ line)).getLast? = some c := by
  rw [dropAllReturns, dropEndWhile, List.getLast?_reverse] at h ⊢
  rw [List.reverse_append, List.dropWhile_append]
  split
  case isTrue hnil =>
    rw [List.isEmpty_iff.mp hnil] at h
    simp at h
  case isFalse => rw [List.head?_append, h, Option.some_or]

/-- The rest of a closed line is closed. -/
theorem IsClosedLine.of_append {lead line : List Char} (h : IsClosedLine (lead ++ line)) :
    IsClosedLine line where
  no_feed := fun hmem => h.no_feed (List.mem_append_right lead hmem)
  no_block := fun hopener => h.no_block (hopener.trans (List.suffix_append lead line).isInfix)
  no_backslash := fun hlast => h.no_backslash (getLast?_dropAllReturns_append lead hlast)

/-- An escape comes from a backslash, behind which there are only carriage returns. -/
theorem head?_of_isEscapedBy {before : List Char} (h : isEscapedBy before = true) :
    (before.dropWhile (· == '\r')).head? = some '\\' := by
  induction before with
  | nil => simp [isEscapedBy] at h
  | cons c before ih =>
    rw [isEscapedBy] at h
    by_cases hreturn : c = '\r'
    · rw [if_pos hreturn] at h
      simpa [hreturn] using ih h
    · rw [if_neg hreturn] at h
      obtain ⟨rfl, _⟩ : c = '\\' ∧ _ := by simpa using h
      rfl

/-- Behind the inside of a literal that ends a closed line nothing is escaped. -/
theorem IsClosedLine.escapesNext_eq_false {lead body : List Char}
    (h : IsClosedLine (lead ++ body)) : escapesNext body = false := by
  by_contra hescapes
  have hhead := head?_of_isEscapedBy (Bool.not_eq_false _ ▸ hescapes)
  refine h.of_append.no_backslash ?_
  rw [dropAllReturns, dropEndWhile, List.getLast?_reverse, hhead]

/-- A piece of a closed line ends there also when further lines follow. -/
theorem Piece.EndsBefore.append_lines {piece : Piece} {rest : List Char}
    (hends : piece.EndsBefore rest) (hline : IsClosedLine (piece.chars ++ rest))
    (more : List Char) : piece.EndsBefore (rest ++ '\n' :: more) := by
  have hfeed : rest.head? ≠ some '\n' := fun hhead =>
    hline.of_append.no_feed (List.mem_of_mem_head? hhead)
  cases piece with
  | code c =>
    cases rest with
    | nil => simpa [Piece.EndsBefore, OpensPiece] using hends
    | cons d rest => exact hends
  | lineComment body =>
    obtain rfl : rest = [] := hends.2.resolve_right hfeed
    exact ⟨hends.1, Or.inr rfl⟩
  | blockComment body closed =>
    exact absurd (List.prefix_append ['/', '*'] _).isInfix hline.no_block
  | literal quote body closed =>
    cases closed with
    | true => exact hends
    | false =>
      obtain rfl : rest = [] := hends.2.resolve_right fun h => hfeed h.1
      have hopened : IsClosedLine ([quote.mark] ++ body) := by simpa [Piece.chars] using hline
      exact ⟨hends.1, Or.inr ⟨rfl, hopened.escapesNext_eq_false⟩⟩

/-- The position behind characters of one line. -/
theorem foldl_advance_of_not_mem {chars : List Char} (hfeed : '\n' ∉ chars) (p : Position) :
    chars.foldl Position.advance p = ⟨p.line, p.column + chars.length⟩ := by
  induction chars generalizing p with
  | nil => rfl
  | cons c chars ih =>
    obtain ⟨hc, hfeed⟩ : '\n' ≠ c ∧ '\n' ∉ chars := by simpa using hfeed
    rw [List.foldl_cons, ih hfeed, Position.advance, if_neg (Ne.symm hc), List.length_cons]
    simp only [Position.mk.injEq, true_and]
    omega

/-- A literal of the same kind and column on another line. -/
def OpenLiteral.onLine (line : Nat) (literal : OpenLiteral) : OpenLiteral :=
  ⟨literal.quote, ⟨line, literal.opened.column⟩⟩

/-- The same scan, with its literals on another line. -/
def Scan.onLine (line : Nat) (scan : Scan) : Scan :=
  ⟨scan.text, scan.unterminated.map (·.onLine line)⟩

/-- One scan behind another, with a line feed between them. -/
def Scan.joinLines (scan later : Scan) : Scan :=
  ⟨scan.text ++ '\n' :: later.text, scan.unterminated ++ later.unterminated⟩

/-- Behind a closed line the scan starts anew in code. -/
theorem scanFrom_line {pieces : List Piece} {line : List Char} (h : IsSegmentation pieces line)
    (hline : IsClosedLine line) (p : Position) (more : List Char) :
    scanFrom .code p (line ++ '\n' :: more) =
      (scanFrom .code p line).joinLines (scanFrom .code ⟨p.line + 1, 0⟩ more) := by
  induction h generalizing p with
  | nil => rfl
  | @cons piece pieces rest hends _ ih =>
    have hnext := ih hline.of_append (piece.chars.foldl Position.advance p)
    have hfeed : '\n' ∉ piece.chars := fun hmem =>
      hline.no_feed (List.mem_append_left rest hmem)
    rw [List.append_assoc, scanFrom_piece (hends.append_lines hline more), scanFrom_piece hends,
      hnext, foldl_advance_of_not_mem hfeed]
    simp [Piece.scanBefore, Scan.joinLines]

/-- The scan of a line depends on the number of the line in its literals only. -/
theorem scanFrom_onLine {pieces : List Piece} {line : List Char} (h : IsSegmentation pieces line)
    (hfeed : '\n' ∉ line) (number column : Nat) :
    scanFrom .code ⟨number, column⟩ line = (scanFrom .code ⟨0, column⟩ line).onLine number := by
  induction h generalizing column with
  | nil => rfl
  | @cons piece pieces rest hends _ ih =>
    obtain ⟨hpiece, hrest⟩ : '\n' ∉ piece.chars ∧ '\n' ∉ rest := by simpa using hfeed
    have hopen : ((piece.openLiteral? ⟨number, column⟩).toList) =
        (piece.openLiteral? ⟨0, column⟩).toList.map (·.onLine number) := by
      cases piece with
      | literal quote body closed => cases closed <;> rfl
      | _ => rfl
    rw [scanFrom_piece hends, scanFrom_piece hends, foldl_advance_of_not_mem hpiece,
      foldl_advance_of_not_mem hpiece, ih hrest]
    simp [Piece.scanBefore, Scan.onLine, hopen]

/-- A line holds at most one literal without its closing quote: nothing follows such a literal. -/
theorem length_unterminated_le {pieces : List Piece} {line : List Char}
    (h : IsSegmentation pieces line) (hfeed : '\n' ∉ line) (p : Position) :
    (scanFrom .code p line).unterminated.length ≤ 1 := by
  induction h generalizing p with
  | nil => simp [scanFrom, Region.openLiteral?]
  | @cons piece pieces rest hends _ ih =>
    have hrest : '\n' ∉ rest := fun hmem => hfeed (List.mem_append_right piece.chars hmem)
    rw [scanFrom_piece hends]
    cases hopen : piece.openLiteral? p with
    | none => simpa [Piece.scanBefore, hopen] using ih hrest _
    | some literal =>
      obtain ⟨quote, body, rfl⟩ : ∃ quote body, piece = .literal quote body false := by
        cases piece with
        | literal quote body closed =>
          cases closed with
          | true => simp [Piece.openLiteral?] at hopen
          | false => exact ⟨quote, body, rfl⟩
        | _ => simp [Piece.openLiteral?] at hopen
      obtain rfl : rest = [] := hends.2.resolve_right fun hhead =>
        hrest (List.mem_of_mem_head? hhead.1)
      simp [Piece.scanBefore, hopen, scanFrom, Region.openLiteral?]

/-- The scan of several lines, the first of which has a number. -/
theorem scanFrom_lines {lines : List (List Char)} (hlines : ∀ line ∈ lines, IsClosedLine line)
    (number : Nat) :
    scanFrom .code ⟨number, 0⟩ (['\n'].intercalate lines) =
      ⟨['\n'].intercalate (lines.map scrub), (lines.zipIdx number).flatMap fun (line, k) =>
        (scan line).unterminated.map (·.onLine k)⟩ := by
  induction lines generalizing number with
  | nil => rfl
  | cons line rest ih =>
    have hline : IsClosedLine line := hlines line List.mem_cons_self
    have hrest := ih (fun other hother => hlines other (List.mem_cons_of_mem line hother))
      (number + 1)
    obtain ⟨pieces, hpieces⟩ := exists_isSegmentation line
    have halone : scanFrom .code ⟨number, 0⟩ line = (scan line).onLine number :=
      scanFrom_onLine hpieces hline.no_feed number 0
    cases rest with
    | nil => simp [List.intercalate, halone, Scan.onLine, scrub]
    | cons next rest =>
      rw [List.intercalate_cons_cons, List.append_assoc, List.singleton_append,
        scanFrom_line hpieces hline, hrest, halone]
      simp [Scan.joinLines, Scan.onLine, scrub]

/-- In a source of closed lines, every line is scrubbed on its own, its literals without a closing
quote are those that it has on its own, at its line number, and there is at most one of them. -/
theorem scan_of_closedLines {lines : List (List Char)}
    (hlines : ∀ line ∈ lines, IsClosedLine line) :
    (scan (['\n'].intercalate lines)).text = ['\n'].intercalate (lines.map scrub) ∧
      (scan (['\n'].intercalate lines)).unterminated = (lines.zipIdx.flatMap fun (line, k) =>
        (scan line).unterminated.map (·.onLine k)) ∧
      ∀ line ∈ lines, (scan line).unterminated.length ≤ 1 := by
  have hscan := scanFrom_lines hlines 0
  refine ⟨congrArg Scan.text hscan, congrArg Scan.unterminated hscan, fun line hmem => ?_⟩
  obtain ⟨pieces, hpieces⟩ := exists_isSegmentation line
  exact length_unterminated_le hpieces (hlines line hmem).no_feed .start

/-- A string that is cut off before a carriage return, a comment with a quote in it, and a string
behind a character literal. -/
def openQuoteLines : List (List Char) :=
  ["s = \"never\r".toList, "// don't".toList, "c = '\\''; t = \"it's".toList]

/-- Both strings are found on their own lines, and the apostrophe of the comment opens nothing. -/
theorem scan_of_closedLines_openQuotes :
    (∀ line ∈ openQuoteLines, IsClosedLine line) ∧
      (scan (['\n'].intercalate openQuoteLines)).unterminated =
        [⟨.double, ⟨0, 4⟩⟩, ⟨.double, ⟨2, 14⟩⟩] ∧
      (scan (['\n'].intercalate openQuoteLines)).text =
        "s =       \r\n        \nc =     ; t =      ".toList := by
  have hlines : ∀ line ∈ openQuoteLines, IsClosedLine line := by decide
  obtain ⟨htext, hopen, _⟩ := scan_of_closedLines hlines
  refine ⟨hlines, ?_, ?_⟩
  · rw [hopen]
    decide
  · rw [htext]
    decide

end BrickLint
