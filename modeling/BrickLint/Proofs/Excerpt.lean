import BrickLint.Proofs.Analysis
import BrickLint.Proofs.Anchor.Diagnostic
import BrickLint.Proofs.Service.History
import BrickLint.Proofs.VisualLine

/-!
# Excerpts under diagnostics

The excerpt under a diagnostic marks one line. Lines of an excerpt are visual lines, and the line of
a diagnostic is a row. The marked line is the row of the diagnostic as long as no row up to it holds
an unusual line break.
-/

namespace BrickLint

open Text

/-- A row of an excerpt is marked. -/
def isMarkedRow (row : List Char) : Bool :=
  row.head? == some '>'

/-- What stands behind the bar of a row of an excerpt, and the blank that follows it. -/
def behindBar (row : List Char) : List Char :=
  (row.dropWhile (· != '|')).drop 2

/-- A visual line holds no line break. -/
theorem isLineBreak_of_mem_visualLines {text line : List Char} (h : line ∈ visualLines text) :
    ∀ c ∈ line, isLineBreak c = false := by
  induction text generalizing line with
  | nil => simp [visualLines] at h
  | cons c text ih =>
    unfold visualLines at h
    split at h
    · exact ih h
    split at h
    · rcases List.mem_cons.mp h with rfl | hlater
      · simp
      · exact ih hlater
    case isFalse hc =>
      have hc : isLineBreak c = false := eq_false_of_ne_true hc
      cases hlines : visualLines text with
      | nil =>
        rw [hlines] at h
        obtain rfl := List.mem_singleton.mp h
        simpa using hc
      | cons first rest =>
        rw [hlines] at h ih
        rcases List.mem_cons.mp h with rfl | hlater
        · exact List.forall_mem_cons.mpr ⟨hc, ih List.mem_cons_self⟩
        · exact ih (List.mem_cons_of_mem first hlater)

/-- A number is filled up with spaces, and its digits are digits. -/
theorem mem_padLeft {width number : Nat} {c : Char} (h : c ∈ padLeft width number) :
    c = ' ' ∨ c.isDigit = true := by
  rcases List.mem_append.mp h with hspace | hdigit
  · exact .inl (List.eq_of_mem_replicate hspace)
  · refine .inr (Nat.isDigit_of_mem_toDigits (b := 10) (n := number) (by decide) le_rfl ?_)
    simpa using hdigit

/-- A line of an excerpt is one row. -/
theorem newline_notMem_excerptLine {target : Int} {width number : Nat} {line : List Char}
    (h : '\n' ∉ line) : '\n' ∉ excerptLine target width number line := by
  have hpad : '\n' ∉ padLeft width number := fun hmem => by
    rcases mem_padLeft hmem with hc | hc <;> simp at hc
  rw [excerptLine]
  split <;> simp [hpad, h]

/-- Only the line in question is marked. -/
theorem isMarkedRow_excerptLine (target : Int) (width number : Nat) (line : List Char) :
    isMarkedRow (excerptLine target width number line) = decide ((number : Int) = target) := by
  rw [excerptLine]
  split
  case isTrue h => simp [isMarkedRow, h]
  case isFalse h => simp [isMarkedRow, h]

/-- Behind the bar stands the line itself. -/
theorem behindBar_excerptLine (target : Int) (width number : Nat) (line : List Char) :
    behindBar (excerptLine target width number line) = line := by
  have hfront : ∀ c ∈ (if (number : Int) = target then '>' else ' ') :: ' ' ::
      padLeft width number ++ [' '], (c != '|') = true := by
    intro c hc
    simp only [List.cons_append, List.mem_cons, List.mem_append, List.not_mem_nil, or_false] at hc
    rcases hc with rfl | rfl | hpad | rfl
    · split <;> decide
    · decide
    · rcases mem_padLeft hpad with rfl | hdigit
      · decide
      · rw [bne_iff_ne]
        rintro rfl
        simp at hdigit
    · decide
  have hline : excerptLine target width number line =
      ((if (number : Int) = target then '>' else ' ') :: ' ' :: padLeft width number ++ [' ']) ++
        '|' :: ' ' :: line := by
    simp [excerptLine]
  rw [behindBar, hline, List.dropWhile_append_of_pos hfront]
  rfl

/-- A part of a numbered list is the numbered part. -/
theorem take_drop_zipIdx {α : Type} (l : List α) (first start count : Nat) :
    ((l.zipIdx first).drop start).take count =
      ((l.drop start).take count).zipIdx (first + start) := by
  apply List.ext_getElem?
  intro i
  simp only [List.getElem?_take, List.getElem?_drop, List.getElem?_zipIdx]
  split
  · simp [Nat.add_assoc]
  · rfl

/-- One element of a numbered list has a given number. -/
theorem filter_zipIdx {α : Type} (l : List α) (first place : Nat) :
    (l.zipIdx first).filter (fun pair => pair.2 = first + place) =
      l[place]?.toList.map fun a => (a, first + place) := by
  induction l generalizing first place with
  | nil => rfl
  | cons a l ih =>
    cases place with
    | zero =>
      have hlater : (l.zipIdx (first + 1)).filter (fun pair => pair.2 = first + 0) = [] := by
        refine List.filter_eq_nil_iff.mpr fun pair hpair => ?_
        have := (List.mem_zipIdx hpair).1
        simp only [decide_eq_true_eq]
        omega
      rw [List.zipIdx_cons, List.filter_cons_of_pos (by simp), hlater]
      rfl
    | succ place =>
      have hnumber : first + (place + 1) = first + 1 + place := by omega
      rw [List.zipIdx_cons, List.filter_cons_of_neg (by simp), hnumber, ih,
        List.getElem?_cons_succ]

/-- Rows that are put together are found again. The empty text has a row even so. -/
theorem filter_rows_intercalate {pieces : List (List Char)} (h : ∀ piece ∈ pieces, '\n' ∉ piece)
    {p : List Char → Bool} (hp : p [] = false) :
    (rows (['\n'].intercalate pieces)).filter p = pieces.filter p := by
  by_cases hpieces : pieces = []
  · subst hpieces
    simp [rows, hp]
  · rw [rows, List.splitOn_intercalate '\n' h hpieces]

/-- The visual lines around a line, which is counted from zero. -/
def linesAround (text : List Char) (line context : Nat) : List (List Char) :=
  ((visualLines text).drop (line - context)).take
    (min (visualLines text).length (line + 1 + context) - (line - context))

/-- The line itself is among the lines around it. -/
theorem getElem?_linesAround (text : List Char) (line context : Nat) :
    (linesAround text line context)[line - (line - context)]? = (visualLines text)[line]? := by
  rw [linesAround, List.getElem?_take, List.getElem?_drop,
    Nat.add_sub_of_le (Nat.sub_le line context)]
  split
  · rfl
  · exact (List.getElem?_eq_none (by omega)).symm

/-- An excerpt puts the lines around its line together, with their numbers. -/
theorem exists_excerpt_eq (text : List Char) (line context : Nat) :
    ∃ width, excerpt text (line + 1) context = ['\n'].intercalate
      (((linesAround text line context).zipIdx (1 + (line - context))).map fun pair =>
        excerptLine (line + 1) width pair.2 pair.1) := by
  refine ⟨(toString (min ((visualLines text).length : Int) (line + 1 + context))).length, ?_⟩
  have hstart : ((line : Int) + 1 - 1 - context).toNat = line - context := by omega
  have hcount : (min ((visualLines text).length : Int) (line + 1 + context) -
      (line - context : Nat)).toNat =
        min (visualLines text).length (line + 1 + context) - (line - context) := by omega
  rw [excerpt, hstart, hcount, take_drop_zipIdx, linesAround]

/-- The marked row of an excerpt shows the visual line that the excerpt is made for. There is no
marked row when the text has no such line. -/
theorem markedRows_excerpt (text : List Char) (line context : Nat) :
    ((rows (excerpt text (line + 1) context)).filter isMarkedRow).map behindBar =
      (visualLines text)[line]?.toList := by
  obtain ⟨width, hexcerpt⟩ := exists_excerpt_eq text line context
  have hpieces : ∀ piece ∈ ((linesAround text line context).zipIdx (1 + (line - context))).map
      (fun pair => excerptLine (line + 1) width pair.2 pair.1), '\n' ∉ piece := by
    intro piece hpiece
    obtain ⟨pair, hpair, rfl⟩ := List.mem_map.mp hpiece
    refine newline_notMem_excerptLine fun hmem => ?_
    have hline : pair.1 ∈ visualLines text :=
      List.mem_of_mem_drop (List.mem_of_mem_take (List.fst_mem_of_mem_zipIdx hpair))
    exact absurd (isLineBreak_of_mem_visualLines hline '\n' hmem) (by decide)
  have hmarked : ∀ pair : List Char × Nat,
      isMarkedRow (excerptLine (line + 1) width pair.2 pair.1) =
        decide (pair.2 = 1 + (line - context) + (line - (line - context))) := by
    intro pair
    rw [isMarkedRow_excerptLine, decide_eq_decide]
    omega
  rw [hexcerpt, filter_rows_intercalate hpieces rfl, List.filter_map, List.map_map]
  simp only [Function.comp_def, hmarked, behindBar_excerptLine]
  rw [filter_zipIdx, getElem?_linesAround, List.map_map]
  exact List.map_id _

/-- A row that holds something is shown. -/
theorem isShownRow_of_ne_nil {text row : List Char} {number : Nat}
    (hrow : (rows text)[number]? = some row) (hne : row ≠ []) : IsShownRow text number :=
  ⟨row, hrow, .inl hne⟩

/-- A finding about a character stands in a shown row. -/
theorem Finding.IsMarked.isShownRow {source : List Char} {f : Finding} (h : f.IsMarked source) :
    IsShownRow source f.toDiagnostic.position.line := by
  obtain ⟨cause, p, c, rfl, _, hchar⟩ := h
  obtain ⟨row, hrow, hchar⟩ := exists_row_of_charAt? hchar
  refine isShownRow_of_ne_nil hrow ?_
  rintro rfl
  simp at hchar

/-- A finding about a name stands in a shown row. -/
theorem Finding.IsNamed.isShownRow {source : List Char} {f : Finding}
    (h : f.IsNamed (rows source)) : IsShownRow source f.toDiagnostic.position.line := by
  obtain ⟨cause, name, line, column, rfl, _, hname, row, hrow, hprefix⟩ := h
  refine isShownRow_of_ne_nil hrow ?_
  rintro rfl
  have hlength := length_pos_of_isIdentifier hname
  have := hprefix.length_le
  simp at this
  simp [this] at hlength

/-- Findings about the style of a row need something in it. -/
theorem ne_nil_of_mem_styleFindings {limit : Int} (hlimit : 0 ≤ limit) {line : Nat}
    {row : List Char} {f : Finding} (h : f ∈ styleFindings limit line (dropAllReturns row)) :
    row ≠ [] := by
  rintro rfl
  have hlength : ¬limit < 0 := by omega
  simp [styleFindings, dropAllReturns, dropEndWhile, hlength] at h

/-- A finding about a row stands in that row. -/
theorem Finding.IsInRow.line_eq {limit : Int} {row : List Char} {line : Nat} {f : Finding}
    (h : f.IsInRow limit row line) : f.toDiagnostic.position.line = line := by
  cases h <;> rfl

/-- Findings about several rows stand in rows that hold something. -/
theorem exists_ne_nil_of_mem_lineFindingsFrom {config : Config}
    (hlimit : 0 ≤ config.maxLineLength) {s : LineState} {line : Nat}
    {pairs : List (List Char × List Char)}
    (hblanked : ∀ pair ∈ pairs, List.Forall₂ Blanked pair.1 pair.2) {f : Finding}
    (h : f ∈ lineFindingsFrom config s line pairs) :
    ∃ n pair, pairs[n]? = some pair ∧ pair.1 ≠ [] ∧ f.toDiagnostic.position.line = line + n := by
  induction pairs generalizing s line with
  | nil => simp [lineFindingsFrom] at h
  | cons pair pairs ih =>
    obtain ⟨raw, code⟩ := pair
    obtain ⟨hpair, hpairs⟩ := List.forall_mem_cons.mp hblanked
    simp only [lineFindingsFrom, List.mem_append] at h
    rcases h with (hstyle | hcode) | hlater
    · split at hstyle
      case isTrue =>
        exact ⟨0, _, rfl, ne_nil_of_mem_styleFindings hlimit hstyle,
          (isInRow_of_mem_styleFindings hstyle).line_eq⟩
      case isFalse => simp at hstyle
    · split at hcode
      · simp at hcode
      case isFalse hempty =>
        have hin : f.IsInRow config.maxLineLength raw line :=
          isInRow_of_mem_codeFindings hpair hcode
        refine ⟨0, _, rfl, ?_, hin.line_eq⟩
        rintro rfl
        obtain rfl := List.forall₂_nil_left_iff.mp hpair
        exact hempty rfl
    · obtain ⟨n, later, hfound, hne, hline⟩ := ih hpairs hlater
      exact ⟨n + 1, later, hfound, hne, by omega⟩

/-- Findings of the line checks stand in shown rows, unless a row of no characters is too long. -/
theorem isShownRow_of_mem_lineFindings {config : Config} (hlimit : 0 ≤ config.maxLineLength)
    {source : List Char} {f : Finding} (h : f ∈ lineFindings config source (scan source)) :
    IsShownRow source f.toDiagnostic.position.line := by
  have hrows := forall₂_rows (forall₂_scan source)
  obtain ⟨n, pair, hpair, hne, hline⟩ :=
    exists_ne_nil_of_mem_lineFindingsFrom hlimit (fun pair hpair => List.forall₂_zip hrows hpair) h
  obtain ⟨hrow, _⟩ := List.getElem?_zip_eq_some.mp hpair
  rw [hline, Nat.zero_add]
  exact isShownRow_of_ne_nil hrow hne

/-- Findings of an analysis stand in shown rows, hints apart. -/
theorem isShownRow_of_mem_allFindings {tools : Grammar.Tools} {catalog : Catalog}
    {config : Config} (hlimit : 0 ≤ config.maxLineLength) {source : List Char} {f : Finding}
    (h : f ∈ allFindings tools catalog config source) :
    f.cause.severity = .hint ∨ IsShownRow source f.toDiagnostic.position.line := by
  simp only [allFindings, List.mem_append] at h
  rcases h with ((((hliteral | hline) | hbalance) | herror) | hwarning) | hhint
  · exact .inr (isMarked_of_mem_literalFindings hliteral).isShownRow
  · exact .inr (isShownRow_of_mem_lineFindings hlimit hline)
  · have hmarked := isMarked_of_checkBalance (Option.mem_toList.mp hbalance)
    exact .inr (hmarked.of_blanked (forall₂_scan source)).isShownRow
  · rcases isMarked_or_isNamed_of_mem_checkDeclarations (List.mem_filter.mp herror).1 with h | h
    · exact .inr h.isShownRow
    · exact .inr h.isShownRow
  · rcases isMarked_or_isNamed_of_mem_checkDeclarations (List.mem_filter.mp hwarning).1 with h | h
    · exact .inr h.isShownRow
    · exact .inr h.isShownRow
  · exact .inl (severity_of_mem_hintFindings hhint)

/-- Diagnostics of an analysis stand in shown rows, the hints of the grammar pass apart. -/
theorem isShownRow_of_mem_diagnostics {tools : Grammar.Tools} {catalog : Catalog}
    {config : Config} (hlimit : 0 ≤ config.maxLineLength) {source : List Char} {d : Diagnostic}
    (hd : d ∈ (analyze tools catalog config source).diagnostics) (hhint : ¬d.IsGrammarHint) :
    IsShownRow source d.position.line := by
  rw [diagnostics_analyze] at hd
  obtain ⟨f, hf, rfl⟩ := List.mem_map.mp hd
  rcases isShownRow_of_mem_allFindings hlimit hf with hseverity | hshown
  · exact absurd (Finding.isGrammarHint hseverity) hhint
  · exact hshown

namespace Service

/-- The session of a service after some calls. The files may change between calls. -/
def sessionAfter (toolbox : Toolbox) (history : List (FileStore × TimedCall)) : Session :=
  history.foldl
    (fun s (files, made) => (perform (toolbox.toolsAt files made.time) s files made.call).2) {}

/-- No call sets a line length that is not positive. -/
theorem Effect.one_le_maxLineLength {tools : Grammar.Tools} {s t : Session} {files : FileStore}
    {call : Call} (h : Effect tools s files call t) (hs : 1 ≤ s.config.maxLineLength) :
    1 ≤ t.config.maxLineLength := by
  rw [h.config_eq]
  cases hoptions : call.options? files with
  | none => exact hs
  | some options =>
    cases call with
    | configure given =>
      rw [Call.options?] at hoptions
      split at hoptions
      · simp at hoptions
      case isFalse hfails =>
        obtain rfl := Option.some.inj hoptions
        have hlength : ¬given.maxLineLength < 1 := by simpa [Call.fails] using hfails
        exact Int.not_lt.mp hlength
    | _ => simp [Call.options?] at hoptions

/-- The line length of a service is positive. -/
theorem one_le_maxLineLength_sessionAfter (toolbox : Toolbox)
    (history : List (FileStore × TimedCall)) :
    1 ≤ (sessionAfter toolbox history).config.maxLineLength := by
  unfold sessionAfter
  suffices h : ∀ s : Session, 1 ≤ s.config.maxLineLength →
      1 ≤ (history.foldl (fun s (files, made) =>
        (perform (toolbox.toolsAt files made.time) s files
          made.call).2) s).config.maxLineLength from
    h {} (by decide)
  induction history with
  | nil => exact fun _ hs => hs
  | cons entry rest ih =>
    exact fun s hs => ih _ ((effect_perform _ s entry.1 entry.2.call).one_le_maxLineLength hs)

end Service

/-- The excerpt that a service shows under a diagnostic marks exactly one line: the visual line with
the number of the diagnosed row. As long as no row up to it holds an unusual line break, this is the
diagnosed row without its carriage return. -/
theorem excerpt_of_diagnostic (toolbox : Toolbox) (history : List (FileStore × Service.TimedCall))
    (tools : Grammar.Tools) (catalog : Catalog) (text : List Char) {d : Diagnostic}
    (hd : d ∈
      (analyze tools catalog (Service.sessionAfter toolbox history).config text).diagnostics)
    (hhint : ¬d.IsGrammarHint) :
    ∃ marked row, (rows (excerpt text (d.position.line + 1) 1)).filter isMarkedRow = [marked] ∧
      (visualLines text)[d.position.line]? = some (behindBar marked) ∧
      (rows text)[d.position.line]? = some row ∧
      (PlainUpTo text d.position.line → behindBar marked = dropReturn row) := by
  have hlimit := Service.one_le_maxLineLength_sessionAfter toolbox history
  have hshown := isShownRow_of_mem_diagnostics (by omega) hd hhint
  have hvisual := List.getElem?_eq_getElem hshown.lt_length_visualLines
  have hmarked := markedRows_excerpt text d.position.line 1
  rw [hvisual, Option.toList_some] at hmarked
  obtain ⟨marked, hrows, hline⟩ := List.map_eq_singleton_iff.mp hmarked
  obtain ⟨row, hrow, hbehind⟩ := id hshown
  refine ⟨marked, row, hrows, by rw [hvisual, hline], hrow, fun hplain => ?_⟩
  have hsame := hshown.getElem?_visualLines hplain
  rw [hvisual, hrow, Option.map_some, ← hline] at hsame
  exact Option.some.inj hsame

/-- A catalog without functions. -/
def bareCatalog : Catalog :=
  ⟨[], [], [], [], "", false⟩

/-- A diagnostic about a literal that the second row opens. -/
def openLiteralDiagnostic : Diagnostic :=
  ⟨"Unterminated string literal", .error, ⟨1, 0⟩, 1, "syntax-checker"⟩

/-- A literal in the second row, which is also the second visual line. -/
def openLiteral : List Char :=
  "int a;\r\n\"hello\r".toList

/-- The excerpt under the diagnostic marks the row that the literal stands in. -/
theorem excerpt_of_openLiteral :
    openLiteralDiagnostic ∈
        (analyze absentTools bareCatalog
          (Service.sessionAfter headerTools []).config openLiteral).diagnostics ∧
      ¬openLiteralDiagnostic.IsGrammarHint ∧ PlainUpTo openLiteral 1 ∧
      ∃ marked, (rows (excerpt openLiteral 2 1)).filter isMarkedRow = [marked] ∧
        behindBar marked = "\"hello".toList := by
  have hmem : openLiteralDiagnostic ∈
      (analyze absentTools bareCatalog
          (Service.sessionAfter headerTools []).config openLiteral).diagnostics := by decide
  have hhint : ¬openLiteralDiagnostic.IsGrammarHint := fun h => absurd h.1 (by decide)
  have hplain : PlainUpTo openLiteral 1 := by decide
  obtain ⟨marked, row, hmarked, _, hrow, hbehind⟩ :=
    excerpt_of_diagnostic headerTools [] absentTools bareCatalog openLiteral hmem hhint
  have hsecond : (rows openLiteral)[1]? = some "\"hello\r".toList := by decide
  obtain rfl : row = "\"hello\r".toList := Option.some.inj (hrow.symm.trans hsecond)
  exact ⟨hmem, hhint, hplain, marked, hmarked, (hbehind hplain).trans (by decide)⟩

/-- A literal in the second row, with a form feed at the end of the first row. -/
def pagedLiteral : List Char :=
  "int a;\x0c\n\"hello".toList

/-- Behind a form feed, the excerpt under a diagnostic marks another line than the diagnosed one:
the diagnostic is about the literal, and the marked line is empty. -/
theorem excerpt_of_pagedLiteral :
    openLiteralDiagnostic ∈
        (analyze absentTools bareCatalog
          (Service.sessionAfter headerTools []).config pagedLiteral).diagnostics ∧
      ¬openLiteralDiagnostic.IsGrammarHint ∧
      (rows pagedLiteral)[1]? = some "\"hello".toList ∧
      excerpt pagedLiteral 2 1 = "  1 | int a;\n> 2 | \n  3 | \"hello".toList ∧
      (rows (excerpt pagedLiteral 2 1)).filter isMarkedRow = ["> 2 | ".toList] ∧
      behindBar "> 2 | ".toList = [] := by
  have hmem : openLiteralDiagnostic ∈
      (analyze absentTools bareCatalog
          (Service.sessionAfter headerTools []).config pagedLiteral).diagnostics := by decide
  have hexcerpt : excerpt pagedLiteral 2 1 =
      "  1 | int a;\n> 2 | \n  3 | \"hello".toList := by decide
  refine ⟨hmem, fun h => absurd h.1 (by decide), by decide, hexcerpt, ?_, by decide⟩
  rw [hexcerpt]
  decide

end BrickLint
