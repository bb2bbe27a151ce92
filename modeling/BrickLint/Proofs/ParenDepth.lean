import BrickLint.Proofs.Analysis
import BrickLint.Proofs.Anchor.Message
import BrickLint.Proofs.Bracket.Balance
import BrickLint.Proofs.Scrub.ClosedLine
import BrickLint.Proofs.VisualLine

/-!
# Open parentheses in front of a row

Two passes follow the parentheses of a text. The line checks count them row by row, and their number
never falls below zero; the bracket check keeps a stack of open brackets, character by character. In
front of every row of a text with balanced brackets, the number is that of the parentheses on the
stack, so a statement is asked for its semicolon exactly if it starts outside all parentheses.
-/

namespace BrickLint

open Text

/-- Behind the first characters of a text the bracket check goes on with some open brackets,
whatever follows. -/
def GoesOnWith (before : List Char) (stack : List OpenBracket) : Prop :=
  ∀ rest, checkBalance (before ++ rest) =
    balanceFrom stack (before.foldl Position.advance .start) rest

/-- The number of open parentheses among open brackets. -/
def openParens (stack : List OpenBracket) : Nat :=
  stack.countP (·.bracket = .paren)

/-- Different open brackets show in what the check finds. -/
theorem eq_of_balanceFrom_eq {stack other : List OpenBracket} {p : Position}
    (h : ∀ rest, balanceFrom stack p rest = balanceFrom other p rest) : stack = other := by
  induction stack generalizing other p with
  | nil =>
    cases other with
    | nil => rfl
    | cons top other => exact absurd (h []) (by simp [balanceFrom])
  | cons top stack ih =>
    cases other with
    | nil => exact absurd (h []) (by simp [balanceFrom])
    | cons top' other =>
      -- At the end of the text the innermost bracket is reported with its place.
      have hend := h []
      simp only [balanceFrom, List.head?_cons, Option.map_some, Option.some.injEq,
        Finding.ofPosition, Finding.mk.injEq, Cause.unclosedOpener.injEq, Int.natCast_inj] at hend
      obtain rfl : top = top' := by
        obtain ⟨bracket, line, column⟩ := top
        obtain ⟨bracket', line', column'⟩ := top'
        simp_all
      -- Behind its closing bracket the other ones are left.
      have hopener : Bracket.ofOpener? top.bracket.closer = none := by cases top.bracket <;> rfl
      have hcloser : Bracket.ofCloser? top.bracket.closer = some top.bracket := by
        cases top.bracket <;> rfl
      refine congrArg (top :: ·) (ih (p := p.advance top.bracket.closer) fun rest => ?_)
      simpa [balanceFrom, hopener, hcloser] using h (top.bracket.closer :: rest)

/-- The check goes on with the same open brackets behind the same characters. -/
theorem GoesOnWith.unique {before : List Char} {stack other : List OpenBracket}
    (h : GoesOnWith before stack) (hother : GoesOnWith before other) : other = stack :=
  eq_of_balanceFrom_eq fun rest => (hother rest).symm.trans (h rest)

/-- Behind the next character the check goes on with what its step makes of the open brackets. -/
theorem GoesOnWith.step {before : List Char} {stack next : List OpenBracket} {c : Char}
    (h : GoesOnWith before stack)
    (hstep : ∀ p rest, p = before.foldl Position.advance .start →
      balanceFrom stack p (c :: rest) = balanceFrom next (p.advance c) rest) :
    GoesOnWith (before ++ [c]) next := by
  intro rest
  rw [List.append_assoc, List.singleton_append, h, hstep _ _ rfl, List.foldl_append]
  rfl

/-- Behind every start of a text with balanced brackets there are open brackets, and as many
parentheses among them as the start opens without closing them. -/
theorem exists_goesOnWith {before rest : List Char} (h : checkBalance (before ++ rest) = none) :
    ∃ stack, GoesOnWith before stack ∧
      openParens stack + before.count ')' = before.count '(' := by
  induction before using List.reverseRecOn generalizing rest with
  | nil => exact ⟨[], fun _ => rfl, rfl⟩
  | append_singleton before c ih =>
    rw [List.append_assoc, List.singleton_append] at h
    obtain ⟨stack, hstack, hcount⟩ := ih h
    rw [hstack] at h
    rw [List.count_append, List.count_append]
    cases hopener : Bracket.ofOpener? c with
    | some bracket =>
      obtain rfl := Bracket.opener_of_ofOpener? hopener
      refine ⟨⟨bracket, before.foldl Position.advance .start⟩ :: stack,
        hstack.step fun p rest hp => by simp [balanceFrom, hopener, hp], ?_⟩
      cases bracket <;> simp [openParens, Bracket.opener] at hcount ⊢ <;> omega
    | none =>
      cases hcloser : Bracket.ofCloser? c with
      | none =>
        have hother : ['('].count c = 0 ∧ [')'].count c = 0 := by
          refine ⟨List.count_eq_zero.mpr fun hc => ?_, List.count_eq_zero.mpr fun hc => ?_⟩
          · obtain rfl := List.mem_singleton.mp hc
            exact absurd hopener (by decide)
          · obtain rfl := List.mem_singleton.mp hc
            exact absurd hcloser (by decide)
        refine ⟨stack, hstack.step fun p rest _ => by simp [balanceFrom, hopener, hcloser], ?_⟩
        simp only [List.count_singleton, beq_iff_eq] at hother ⊢
        grind
      | some bracket =>
        obtain rfl := Bracket.closer_of_ofCloser? hcloser
        cases stack with
        | nil => simp [balanceFrom, hopener, hcloser] at h
        | cons top stack =>
          by_cases htop : top.bracket = bracket
          · refine ⟨stack, hstack.step fun p rest _ => by
              simp [balanceFrom, hopener, hcloser, htop], ?_⟩
            cases bracket <;>
              simp [openParens, Bracket.closer, htop] at hcount ⊢ <;> omega
          · simp [balanceFrom, hopener, hcloser, htop] at h

/-- The part of a text in front of a row. -/
def textBefore (text : List Char) (k : Nat) : List Char :=
  ((rows text).take k).flatMap (· ++ ['\n'])

/-- The next row and its line feed follow. -/
theorem textBefore_succ {text row : List Char} {k : Nat} (hrow : (rows text)[k]? = some row) :
    textBefore text (k + 1) = textBefore text k ++ (row ++ ['\n']) := by
  rw [textBefore, List.take_add_one, hrow, List.flatMap_append]
  simp [textBefore]

/-- A text falls into the part in front of a row, the row, and the rest. -/
theorem exists_eq_textBefore_append {text row : List Char} {k : Nat}
    (hrow : (rows text)[k]? = some row) :
    ∃ rest, text = textBefore text k ++ (row ++ rest) := by
  induction k generalizing text with
  | zero =>
    obtain ⟨first, more, hrows⟩ := exists_rows_eq_cons text
    obtain rfl : first = row := by simpa [hrows] using hrow
    rcases rows_cases hrows with ⟨rfl, _⟩ | ⟨rest, htext, _⟩
    · exact ⟨[], by simp [textBefore]⟩
    · exact ⟨'\n' :: rest, by simpa [textBefore] using htext⟩
  | succ k ih =>
    obtain ⟨first, more, hrows⟩ := exists_rows_eq_cons text
    rw [hrows, List.getElem?_cons_succ] at hrow
    rcases rows_cases hrows with ⟨_, rfl⟩ | ⟨behind, htext, rfl⟩
    · simp at hrow
    · obtain ⟨rest, hrest⟩ := ih hrow
      refine ⟨rest, ?_⟩
      have hbefore : textBefore text (k + 1) = first ++ '\n' :: textBefore behind k := by
        simp [textBefore, hrows]
      rw [hbefore, List.append_assoc, List.cons_append, ← hrest]
      exact htext

/-- A row starts at the first column of its line. -/
theorem foldl_advance_textBefore {text row : List Char} {k : Nat}
    (hrow : (rows text)[k]? = some row) :
    (textBefore text k).foldl Position.advance .start = ⟨k, 0⟩ := by
  induction k generalizing row with
  | zero => rfl
  | succ k ih =>
    have hk : k < (rows text).length := by
      have := (List.getElem?_eq_some_iff.mp hrow).1
      omega
    have hprevious := List.getElem?_eq_getElem hk
    rw [textBefore_succ hprevious, ← List.append_assoc, List.foldl_append, List.foldl_append,
      ih hprevious, foldl_advance_of_not_mem (newline_not_mem_of_mem_rows (List.getElem_mem hk))]
    rfl

/-- The state of the line checks in front of a row of a scrubbed text. -/
def lineStateAt (text : List Char) (k : Nat) : LineState :=
  ((rows text).take k).foldl (fun s row => s.next (dropAllReturns row)) {}

/-- The state behind a row. -/
theorem lineStateAt_succ {text row : List Char} {k : Nat} (hrow : (rows text)[k]? = some row) :
    lineStateAt text (k + 1) = (lineStateAt text k).next (dropAllReturns row) := by
  rw [lineStateAt, List.take_add_one, hrow, List.foldl_append]
  rfl

/-- Dropping carriage returns drops no other character. -/
theorem count_dropAllReturns {c : Char} (hc : c ≠ '\r') (row : List Char) :
    (dropAllReturns row).count c = row.count c := by
  have hreturns : (row.reverse.takeWhile (· == '\r')).count c = 0 := by
    refine List.count_eq_zero.mpr fun hmem => hc ?_
    simpa using List.all_eq_true.mp List.all_takeWhile c hmem
  have hsplit := congrArg (List.count c)
    (List.takeWhile_append_dropWhile (p := (· == '\r')) (l := row.reverse))
  rw [List.count_append, hreturns, Nat.zero_add, List.count_reverse] at hsplit
  rw [dropAllReturns, dropEndWhile, List.count_reverse, hsplit]

/-- In front of every row of a text with balanced brackets, the line checks count the parentheses
that are opened and not closed: their number never has to be kept from falling below zero. -/
theorem parens_lineStateAt {text : List Char} (h : checkBalance text = none) {k : Nat}
    (hk : k < (rows text).length) :
    (lineStateAt text k).parens + (textBefore text k).count ')' =
      (textBefore text k).count '(' := by
  induction k with
  | zero => rfl
  | succ k ih =>
    have hbefore := ih (by omega)
    have hrow := List.getElem?_eq_getElem (by omega : k < (rows text).length)
    obtain ⟨rest, htext⟩ := exists_eq_textBefore_append (List.getElem?_eq_getElem hk)
    rw [htext] at h
    obtain ⟨_, _, hcount⟩ := exists_goesOnWith h
    have hopen := count_dropAllReturns (by decide : '(' ≠ '\r') (rows text)[k]
    have hclose := count_dropAllReturns (by decide : ')' ≠ '\r') (rows text)[k]
    rw [textBefore_succ hrow] at hcount ⊢
    simp only [List.count_append, List.count_singleton] at hcount ⊢
    rw [lineStateAt_succ hrow, LineState.next, hopen, hclose]
    simp at hcount ⊢
    omega

/-- What the line checks find in numbered rows, each row being checked in the state behind the rows
in front of it. -/
theorem mem_lineFindingsFrom {config : Config} {s : LineState} {line : Nat}
    {pairs : List (List Char × List Char)} {f : Finding} :
    f ∈ lineFindingsFrom config s line pairs ↔ ∃ k raw code, pairs[k]? = some (raw, code) ∧
      (config.checkStyle = true ∧
          f ∈ styleFindings config.maxLineLength (line + k) (dropAllReturns raw) ∨
        (strip (dropAllReturns code)).isEmpty = false ∧
          f ∈ codeFindings config (((pairs.map Prod.snd).take k).foldl
            (fun s row => s.next (dropAllReturns row)) s) (line + k) (dropAllReturns code)) := by
  induction pairs generalizing s line with
  | nil => simp [lineFindingsFrom]
  | cons pair pairs ih =>
    obtain ⟨raw, code⟩ := pair
    have hcode : f ∈ (if (strip (dropAllReturns code)).isEmpty then []
        else codeFindings config s line (dropAllReturns code)) ↔
          (strip (dropAllReturns code)).isEmpty = false ∧
            f ∈ codeFindings config s line (dropAllReturns code) := by
      split <;> simp_all
    simp only [lineFindingsFrom, List.mem_append, hcode, List.mem_ite_nil_right, ih]
    constructor
    · rintro (hfirst | ⟨k, raw', code', hpair, hlater⟩)
      · exact ⟨0, raw, code, rfl, hfirst⟩
      · exact ⟨k + 1, raw', code', hpair, by rwa [Nat.add_right_comm, Nat.add_assoc] at hlater⟩
    · rintro ⟨k, raw', code', hpair, hfound⟩
      cases k with
      | zero =>
        obtain ⟨rfl, rfl⟩ := Prod.mk.inj (Option.some.inj hpair)
        exact .inl hfound
      | succ k =>
        exact .inr ⟨k, raw', code', hpair, by rwa [Nat.add_right_comm, Nat.add_assoc]⟩

/-- A missing semicolon is found in a line that needs one if semicolons are asked for, unless the
line before goes on in it or a parenthesis is open. -/
theorem missingSemicolon_mem_codeFindings {config : Config} {s : LineState} {line : Nat}
    {code : List Char} {f : Finding} :
    f ∈ codeFindings config s line code ∧ f.cause = .missingSemicolon ↔
      (config.requireSemicolons = true ∧ s.parens = 0 ∧ s.continued = false ∧
          needsSemicolon (strip code) = true) ∧
        f = ⟨.missingSemicolon, line, (stripEnd code).length, 1⟩ := by
  rw [codeFindings, List.mem_append]
  constructor
  · rintro ⟨hdoubled | hmissing, hcause⟩
    · obtain ⟨column, _, rfl⟩ := Option.map_eq_some_iff.mp (Option.mem_toList.mp hdoubled)
      cases hcause
    · split at hmissing
      case isTrue hneeded =>
        simp only [Bool.and_eq_true, Bool.not_eq_true', beq_iff_eq] at hneeded
        obtain ⟨⟨⟨hasked, hcontinued⟩, hparens⟩, hneeded⟩ := hneeded
        exact ⟨⟨hasked, hparens, hcontinued, hneeded⟩, List.mem_singleton.mp hmissing⟩
      case isFalse => simp at hmissing
  · rintro ⟨⟨hasked, hparens, hcontinued, hneeded⟩, rfl⟩
    exact ⟨.inr (by simp [hasked, hparens, hcontinued, hneeded]), rfl⟩

/-- A line that needs a semicolon is not blank. -/
theorem isEmpty_of_needsSemicolon {code : List Char} (h : needsSemicolon code = true) :
    code.isEmpty = false := by
  cases code with
  | nil => exact absurd h (by decide)
  | cons c code => rfl

/-- What the line checks find in the rows of a source. -/
theorem mem_lineFindings {config : Config} {source : List Char} {f : Finding} :
    f ∈ lineFindings config source (scan source) ↔ ∃ k raw code, (rows source)[k]? = some raw ∧
      (rows (scrub source))[k]? = some code ∧
      (config.checkStyle = true ∧ f ∈ styleFindings config.maxLineLength k (dropAllReturns raw) ∨
        (strip (dropAllReturns code)).isEmpty = false ∧
          f ∈ codeFindings config (lineStateAt (scrub source) k) k (dropAllReturns code)) := by
  have hlength := (forall₂_rows (forall₂_scan source)).length_eq
  have hcode : ((rows source).zip (rows (scan source).text)).map Prod.snd = rows (scrub source) :=
    List.map_snd_zip hlength.ge
  simp only [lineFindings, mem_lineFindingsFrom, hcode, Nat.zero_add, List.getElem?_zip_eq_some,
    and_assoc]
  rfl

/-- A missing semicolon is found in a row of a source if semicolons are asked for and its code needs
one, unless the row before goes on in it or a parenthesis is open. -/
theorem missingSemicolon_mem_lineFindings {config : Config} {source row : List Char} {k : Nat}
    (hrow : (rows (scrub source))[k]? = some row) :
    (∃ f ∈ lineFindings config source (scan source),
      f.cause = .missingSemicolon ∧ f.toDiagnostic.position.line = k) ↔
      config.requireSemicolons = true ∧ (lineStateAt (scrub source) k).parens = 0 ∧
        (lineStateAt (scrub source) k).continued = false ∧
        needsSemicolon (strip (dropAllReturns row)) = true := by
  constructor
  · rintro ⟨f, hf, hcause, hline⟩
    obtain ⟨n, raw, code, _, hcode, ⟨_, hstyle⟩ | ⟨_, hfound⟩⟩ := mem_lineFindings.mp hf
    · have hin := isInRow_of_mem_styleFindings hstyle
      simp only [styleFindings, List.mem_append] at hstyle
      rcases hstyle with hlong | hindent
      · split at hlong <;> simp_all
      · split at hindent <;> simp_all
    · obtain ⟨hneeded, rfl⟩ := missingSemicolon_mem_codeFindings.mp ⟨hfound, hcause⟩
      obtain rfl : n = k := hline
      obtain rfl : code = row := Option.some.inj (hcode.symm.trans hrow)
      exact hneeded
  · intro hneeded
    obtain ⟨raw, hraw, _⟩ :=
      exists_getElem?_of_forall₂ (forall₂_rows (forall₂_scan source)) hrow
    obtain ⟨hfound, hcause⟩ :=
      (@missingSemicolon_mem_codeFindings config _ k _ _).mpr ⟨hneeded, rfl⟩
    have hvisible := isEmpty_of_needsSemicolon hneeded.2.2.2
    exact ⟨_, mem_lineFindings.mpr ⟨k, raw, row, hraw, hrow, .inr ⟨hvisible, hfound⟩⟩, hcause, rfl⟩

/-- Findings about declarations are not about semicolons. -/
theorem cause_ne_missingSemicolon {catalog : Catalog} {config : Config} {source : List Char}
    {f : Finding} (h : f ∈ (checkDeclarations catalog config (scan source).text).findings) :
    f.cause ≠ .missingSemicolon := by
  intro hcause
  rcases isMarked_or_isNamed_of_mem_checkDeclarations h with hmarked | hnamed
  · obtain ⟨cause, p, c, rfl, hmark, _⟩ := hmarked
    obtain rfl : cause = .missingSemicolon := hcause
    cases hmark
  · obtain ⟨cause, name, line, column, rfl, hname, _⟩ := hnamed
    obtain rfl : cause = .missingSemicolon := hcause
    cases hname

/-- A warning about a missing semicolon shows a finding of the line checks. -/
theorem exists_missingSemicolon_warning_iff {tools : Grammar.Tools} {catalog : Catalog}
    {config : Config} {source : List Char} {k : Nat} :
    (∃ d ∈ (analyze tools catalog config source).warnings,
      d.message = "Missing semicolon" ∧ d.position.line = k) ↔
        ∃ f ∈ lineFindings config source (scan source),
          f.cause = .missingSemicolon ∧ f.toDiagnostic.position.line = k := by
  have hwarnings : (analyze tools catalog config source).warnings =
      diagnosticsOf (lineFindings config source (scan source)) ++
        diagnosticsOf ((checkDeclarations catalog config (scan source).text).findings.filter
          fun f => !f.isError) := rfl
  have hcause : ∀ {f : Finding}, f.toDiagnostic.message = "Missing semicolon" →
      f.cause = .missingSemicolon := Cause.eq_of_message_eq .missingSemicolon rfl
  rw [hwarnings]
  constructor
  · rintro ⟨d, hd, hmessage, hline⟩
    rcases List.mem_append.mp hd with hd | hd
    · obtain ⟨f, hf, rfl⟩ := List.mem_map.mp hd
      exact ⟨f, hf, hcause hmessage, hline⟩
    · obtain ⟨f, hf, rfl⟩ := List.mem_map.mp hd
      have hf := (List.mem_filter.mp hf).1
      exact absurd (hcause hmessage) (cause_ne_missingSemicolon hf)
  · rintro ⟨f, hf, hmissing, hline⟩
    exact ⟨f.toDiagnostic, List.mem_append_left _ (List.mem_map_of_mem hf),
      congrArg Cause.message hmissing, hline⟩

/-- In a text with balanced brackets the line checks and the bracket check agree on the parentheses
that are open in front of a row. The text falls into the part in front of the row, the row and the
rest; behind that part the bracket check goes on with some open brackets and with no others, and the
line checks count the parentheses among them. So a missing semicolon is reported in a row if and
only if semicolons are asked for, no parenthesis is open in front of the row, the row before does
not go on in it, and its code needs a semicolon. -/
theorem openParens_in_front_of_row {source row : List Char} {k : Nat}
    (hbalanced : checkBalance (scrub source) = none)
    (hrow : (rows (scrub source))[k]? = some row) :
    ∃ before rest stack, scrub source = before ++ (row ++ rest) ∧
      before.foldl Position.advance .start = ⟨k, 0⟩ ∧
      (∀ other, GoesOnWith before other ↔ other = stack) ∧
      (lineStateAt (scrub source) k).parens = openParens stack ∧
      ∀ tools catalog config, (∃ d ∈ (analyze tools catalog config source).warnings,
        d.message = "Missing semicolon" ∧ d.position.line = k) ↔
          config.requireSemicolons = true ∧ openParens stack = 0 ∧
            (lineStateAt (scrub source) k).continued = false ∧
            needsSemicolon (strip (dropAllReturns row)) = true := by
  obtain ⟨rest, htext⟩ := exists_eq_textBefore_append hrow
  obtain ⟨stack, hstack, hcount⟩ := exists_goesOnWith (htext ▸ hbalanced)
  have hline := parens_lineStateAt hbalanced (List.getElem?_eq_some_iff.mp hrow).1
  have hparens : (lineStateAt (scrub source) k).parens = openParens stack := by omega
  refine ⟨_, rest, stack, htext, foldl_advance_textBefore hrow, fun other => ?_, hparens,
    fun tools catalog config => ?_⟩
  · exact ⟨hstack.unique, fun h => h ▸ hstack⟩
  · rw [exists_missingSemicolon_warning_iff, missingSemicolon_mem_lineFindings hrow, hparens]

/-- A parameter list over two lines, and a statement without a semicolon. -/
def wrappedHeader : List Char :=
  "void f(int a,\n  int b)\n\x7b\n  a = b\n\x7d\n".toList

/-- The second line of the parameter list looks like a declaration without a semicolon. Only the
statement outside the list is reported. -/
theorem openParens_in_front_of_wrapped :
    checkBalance (scrub wrappedHeader) = none ∧
      (rows (scrub wrappedHeader))[1]? = some "  int b)".toList ∧
      needsSemicolon (strip "  int b)".toList) = true ∧
      (∀ tools catalog, ¬∃ d ∈ (analyze tools catalog {} wrappedHeader).warnings,
        d.message = "Missing semicolon" ∧ d.position.line = 1) ∧
      (rows (scrub wrappedHeader))[3]? = some "  a = b".toList ∧
      ∀ tools catalog, ∃ d ∈ (analyze tools catalog {} wrappedHeader).warnings,
        d.message = "Missing semicolon" ∧ d.position.line = 3 := by
  have hbalanced : checkBalance (scrub wrappedHeader) = none := by decide +kernel
  have hwrapped : (rows (scrub wrappedHeader))[1]? = some "  int b)".toList := by decide +kernel
  have hstatement : (rows (scrub wrappedHeader))[3]? = some "  a = b".toList := by decide +kernel
  have hinside : (lineStateAt (scrub wrappedHeader) 1).parens = 1 := by decide +kernel
  have houtside : lineStateAt (scrub wrappedHeader) 3 = ⟨false, 0⟩ := by decide +kernel
  refine ⟨hbalanced, hwrapped, by decide +kernel, fun tools catalog => ?_, hstatement,
    fun tools catalog => ?_⟩
  · obtain ⟨_, _, stack, _, _, _, hparens, hwarned⟩ :=
      openParens_in_front_of_row hbalanced hwrapped
    rw [hwarned]
    rintro ⟨_, hnone, _⟩
    omega
  · obtain ⟨_, _, stack, _, _, _, hparens, hwarned⟩ :=
      openParens_in_front_of_row hbalanced hstatement
    rw [hwarned, ← hparens, houtside]
    exact ⟨rfl, rfl, rfl, by decide +kernel⟩

end BrickLint
