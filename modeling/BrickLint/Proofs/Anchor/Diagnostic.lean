import BrickLint.Proofs.Analysis
import BrickLint.Proofs.Anchor.Message

/-!
# Diagnostics point into the source

The passes work on copies of the source: the scrubbed text, its rows, and its rows without carriage
returns. Whatever they report is shown at a place of the source itself, and the message fits what
stands there.
-/

namespace BrickLint

open Text

/-- What a finding is about stands in a row, where the diagnostic of the finding says. -/
structure Finding.IsPlaced (row : List Char) (f : Finding) : Prop where
  /-- Names stand in the row, from the first to the last character. -/
  name : ∀ name, f.cause.name? = some name → isIdentifier name = true ∧
    (row.drop f.toDiagnostic.position.column).take f.toDiagnostic.length = name.toList
  /-- Characters stand in the row. -/
  mark : ∀ c, f.cause.mark? = some c → row[f.toDiagnostic.position.column]? = some c
  /-- Both halves of a doubled equals sign stand in the row. -/
  doubledEquals : f.cause = .doubledEquals → row[f.toDiagnostic.position.column]? = some '=' ∧
    row[f.toDiagnostic.position.column + 2]? = some '='
  /-- A row that is too long goes on to its end. -/
  lineTooLong : ∀ limit, f.cause = .lineTooLong limit →
    f.toDiagnostic.position.column + f.toDiagnostic.length = (dropAllReturns row).length
  /-- A semicolon is missing in the row or at its end. -/
  missingSemicolon : f.cause = .missingSemicolon → f.toDiagnostic.position.column ≤ row.length

/-- A finding about a name is placed. -/
theorem Finding.IsNamed.exists_isPlaced {lines : List (List Char)} {f : Finding}
    (h : f.IsNamed lines) :
    ∃ row, lines[f.toDiagnostic.position.line]? = some row ∧ f.IsPlaced row := by
  obtain ⟨cause, name, line, column, rfl, hcause, hname, row, hrow, hprefix⟩ := h
  have hlength : max 1 name.length = name.length := by
    have := length_pos_of_isIdentifier hname
    omega
  refine ⟨row, hrow, ⟨?_, ?_, ?_, ?_, ?_⟩⟩
  · intro other hother
    obtain rfl : name = other := Option.some.inj (hcause.symm.trans hother)
    refine ⟨hname, ?_⟩
    rw [List.prefix_iff_eq_take, String.length_toList] at hprefix
    simpa [Finding.toDiagnostic, Diagnostic.at, hlength] using hprefix.symm
  all_goals cases cause <;> simp_all [Cause.name?, Cause.mark?]

/-- A finding about a character is placed. -/
theorem Finding.IsMarked.exists_isPlaced {source : List Char} {f : Finding}
    (h : f.IsMarked source) :
    ∃ row, (rows source)[f.toDiagnostic.position.line]? = some row ∧ f.IsPlaced row := by
  obtain ⟨cause, p, c, rfl, hcause, hchar⟩ := h
  obtain ⟨row, hrow, hchar⟩ := exists_row_of_charAt? hchar
  refine ⟨row, hrow, ⟨?_, ?_, ?_, ?_, ?_⟩⟩
  · cases cause <;> simp_all [Finding.ofPosition, Cause.name?, Cause.mark?]
  · intro other hother
    obtain rfl : c = other := Option.some.inj (hcause.symm.trans hother)
    exact hchar
  all_goals cases cause <;> simp_all [Finding.ofPosition, Cause.mark?]

/-- A finding about a line is placed, when the limit leaves room for a character. -/
theorem Finding.IsInRow.isPlaced {limit : Int} {row : List Char} {line : Nat} {f : Finding}
    (h : f.IsInRow limit row line) (hlimit : 1 ≤ limit) :
    f.toDiagnostic.position.line = line ∧ f.IsPlaced row := by
  cases h with
  | doubledEquals hfirst hsecond =>
    exact ⟨rfl, ⟨by simp [Cause.name?], by simp [Cause.mark?], fun _ => ⟨hfirst, hsecond⟩,
      by simp, by simp⟩⟩
  | missingSemicolon hcolumn =>
    exact ⟨rfl, ⟨by simp [Cause.name?], by simp [Cause.mark?], by simp, by simp,
      fun _ => hcolumn⟩⟩
  | lineTooLong hlong =>
    refine ⟨rfl, ⟨by simp [Cause.name?], by simp [Cause.mark?], by simp, ?_, by simp⟩⟩
    rintro _ ⟨⟩
    simp only [Finding.toDiagnostic, Diagnostic.at]
    omega
  | mixedIndentation length =>
    exact ⟨rfl, ⟨by simp [Cause.name?], by simp [Cause.mark?], by simp, by simp, by simp⟩⟩

/-- The message of a diagnostic fits what stands at its place in a row. -/
structure Diagnostic.IsAnchored (row : List Char) (d : Diagnostic) : Prop where
  /-- A message about a function or a variable is shown at the name that it quotes first. -/
  name : d.source = "semantic-analyzer" →
    d.message ≠ "Array access on braced initializer is not allowed" →
    ∃ name, firstQuoted? d.message.toList = some name ∧
      (row.drop d.position.column).take d.length = name
  /-- An indexed initializer is shown at its equals sign. -/
  initializer : d.message = "Array access on braced initializer is not allowed" →
    row[d.position.column]? = some '='
  /-- A bracket fault is shown at the bracket that its message quotes first. -/
  bracket : d.source = "balance-checker" →
    ∃ c, firstQuoted? d.message.toList = some [c] ∧ row[d.position.column]? = some c
  /-- An open string literal is shown at its opening quote. -/
  stringLiteral : d.message = "Unterminated string literal" →
    row[d.position.column]? = some '"'
  /-- An open character literal is shown at its opening quote. -/
  characterLiteral : d.message = "Unterminated character literal" →
    row[d.position.column]? = some '\''
  /-- A doubled equals sign is shown from its first half to its second half. -/
  doubledEquals :
    d.message = "Invalid assignment operator \"= =\", did you mean \"==\" or \"=\"?" →
    row[d.position.column]? = some '=' ∧ row[d.position.column + 2]? = some '='
  /-- A line that is too long is shown up to its end. -/
  lineTooLong : "Line too long".toList <+: d.message.toList →
    d.position.column + d.length = (dropAllReturns row).length
  /-- A missing semicolon is shown in the row or at its end. -/
  missingSemicolon : d.message = "Missing semicolon" → d.position.column ≤ row.length

/-- The passes over the declarations look for names and for initializers. -/
theorem Cause.name?_of_source {cause : Cause} (h : cause.source = "semantic-analyzer") :
    cause = .indexedInitializer ∨ ∃ name, cause.name? = some name := by
  cases cause <;> simp_all [Cause.source, Cause.name?]

/-- The balance check looks for brackets. -/
theorem Cause.mark?_of_source {cause : Cause} (h : cause.source = "balance-checker") :
    ∃ c, cause.mark? = some c := by
  cases cause <;> simp_all [Cause.source, Cause.mark?]

/-- A message that starts like one about a long line is about a long line. -/
theorem Cause.eq_lineTooLong_of_isPrefix {cause : Cause}
    (h : "Line too long".toList <+: cause.message.toList) :
    ∃ limit, cause = .lineTooLong limit := by
  have hlead := Cause.lead_eq_of_isPrefix h (by decide)
  have hline : "Line too long".toList.take 4 = ['L', 'i', 'n', 'e'] := by decide
  rw [hline] at hlead
  cases cause <;> simp_all [Cause.lead]

/-- The diagnostic of a placed finding is anchored. -/
theorem Finding.IsPlaced.isAnchored {row : List Char} {f : Finding} (h : f.IsPlaced row) :
    f.toDiagnostic.IsAnchored row where
  name := by
    intro hsource hmessage
    rcases Cause.name?_of_source hsource with hcause | ⟨name, hcause⟩
    · exact absurd (congrArg Cause.message hcause) hmessage
    · obtain ⟨hname, hslice⟩ := h.name name hcause
      exact ⟨name.toList, Cause.firstQuoted?_of_name? hcause hname, hslice⟩
  initializer := by
    intro hmessage
    have hcause := Cause.eq_of_message_eq .indexedInitializer rfl hmessage
    exact h.mark '=' (congrArg Cause.mark? hcause)
  bracket := by
    intro hsource
    obtain ⟨c, hcause⟩ := Cause.mark?_of_source hsource
    exact ⟨c, Cause.firstQuoted?_of_mark? hcause hsource, h.mark c hcause⟩
  stringLiteral := by
    intro hmessage
    have hcause := Cause.eq_of_message_eq (.unterminatedLiteral .double) rfl hmessage
    exact h.mark '"' (congrArg Cause.mark? hcause)
  characterLiteral := by
    intro hmessage
    have hcause := Cause.eq_of_message_eq (.unterminatedLiteral .single) rfl hmessage
    exact h.mark '\'' (congrArg Cause.mark? hcause)
  doubledEquals := by
    intro hmessage
    exact h.doubledEquals (Cause.eq_of_message_eq .doubledEquals rfl hmessage)
  lineTooLong := by
    intro hmessage
    obtain ⟨limit, hcause⟩ := Cause.eq_lineTooLong_of_isPrefix hmessage
    exact h.lineTooLong limit hcause
  missingSemicolon := by
    intro hmessage
    exact h.missingSemicolon (Cause.eq_of_message_eq .missingSemicolon rfl hmessage)

/-- The advisory remarks of the grammar pass. -/
def Diagnostic.IsGrammarHint (d : Diagnostic) : Prop :=
  d.severity = .hint ∧ d.source = "grammar-check"

/-- A hint comes from the grammar pass. -/
theorem Finding.isGrammarHint {f : Finding} (h : f.cause.severity = .hint) :
    f.toDiagnostic.IsGrammarHint := by
  refine ⟨h, ?_⟩
  change f.cause.source = "grammar-check"
  generalize f.cause = cause at h
  cases cause <;> simp_all [Cause.severity, Cause.source]

/-- A finding of an analysis is a hint, or it is placed in a row of the source. -/
theorem exists_isPlaced_of_mem_allFindings {tools : Grammar.Tools} {catalog : Catalog}
    {config : Config} {source : List Char} (hlimit : 1 ≤ config.maxLineLength) {f : Finding}
    (h : f ∈ allFindings tools catalog config source) :
    f.cause.severity = .hint ∨
      ∃ row, (rows source)[f.toDiagnostic.position.line]? = some row ∧ f.IsPlaced row := by
  rcases allFindings_cases h with hmarked | hnamed | ⟨line, row, hrow, hin⟩ | hhint
  · exact Or.inr hmarked.exists_isPlaced
  · exact Or.inr hnamed.exists_isPlaced
  · obtain ⟨rfl, hplaced⟩ := hin.isPlaced hlimit
    exact Or.inr ⟨row, hrow, hplaced⟩
  · exact Or.inl hhint

/-- Every diagnostic of an analysis but the hints of the grammar pass is anchored in the source: its
line is a row of the source, and what its message is about stands in this row at its column. -/
theorem analyze_isAnchored (tools : Grammar.Tools) (catalog : Catalog) (config : Config)
    (source : List Char) (hlimit : 1 ≤ config.maxLineLength) {d : Diagnostic}
    (hd : d ∈ (analyze tools catalog config source).diagnostics) (hhint : ¬d.IsGrammarHint) :
    ∃ row, (rows source)[d.position.line]? = some row ∧ d.IsAnchored row := by
  rw [diagnostics_analyze] at hd
  obtain ⟨f, hfound, rfl⟩ := List.mem_map.mp hd
  rcases exists_isPlaced_of_mem_allFindings hlimit hfound with hseverity | ⟨row, hrow, hplaced⟩
  · exact absurd (Finding.isGrammarHint hseverity) hhint
  · exact ⟨row, hrow, hplaced.isAnchored⟩

/-- A comment, and a line that ends inside a string literal. -/
def cutOffSource : List Char :=
  "// greet\n  \"hello".toList

/-- The diagnostic about the literal. -/
def cutOffDiagnostic : Diagnostic :=
  ⟨"Unterminated string literal", .error, ⟨1, 2⟩, 1, "syntax-checker"⟩

/-- The diagnostic about a literal that is cut off points at its opening quote. -/
theorem analyze_isAnchored_cutOff :
    cutOffDiagnostic ∈
        (analyze absentTools ⟨[], [], [], [], "", false⟩ {} cutOffSource).diagnostics ∧
      ∃ row, (rows cutOffSource)[1]? = some row ∧ row[2]? = some '"' := by
  have hmem : cutOffDiagnostic ∈
      (analyze absentTools ⟨[], [], [], [], "", false⟩ {} cutOffSource).diagnostics := by decide
  obtain ⟨row, hrow, hanchored⟩ := analyze_isAnchored absentTools ⟨[], [], [], [], "", false⟩ {}
    cutOffSource (by decide) hmem (fun h => absurd h.1 (by decide))
  exact ⟨hmem, row, hrow, hanchored.stringLiteral rfl⟩

end BrickLint
