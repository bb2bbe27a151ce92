import BrickLint.Proofs.Analysis
import BrickLint.Proofs.Anchor.Message
import BrickLint.Proofs.Switch
import Mathlib.Data.List.Infix

/-!
# Options that only filter

Five options decide what is looked for. Switching one of them off takes some diagnostics out of the
list and leaves the others as they are, in their order, and which ones go can be read off the
diagnostics themselves: off their source, or off the words of their message. The words are reliable
because a name in a message is an identifier, and no identifier holds a blank.
-/

namespace BrickLint

open Text

/-- A text holds all characters of the words in it. -/
theorem not_infix_of_not_mem {c : Char} {word text : List Char} (hword : c ∈ word)
    (htext : c ∉ text) : ¬word <:+: text :=
  fun h => htext (h.subset hword)

/-- Words of the first part of a text are words of the text. -/
theorem infix_toList_append_left {word : List Char} {text : String} (rest : String)
    (h : word <:+: text.toList) : word <:+: (text ++ rest).toList := by
  rw [String.toList_append]
  exact h.trans (List.prefix_append _ _).isInfix

/-- Words of the last part of a text are words of the text. -/
theorem infix_toList_append_right {word : List Char} (text : String) {rest : String}
    (h : word <:+: rest.toList) : word <:+: (text ++ rest).toList := by
  rw [String.toList_append]
  exact h.trans (List.suffix_append _ _).isInfix

/-- Words without a certain character stand before the character or behind it. -/
theorem infix_of_infix_append_cons {c : Char} {word before behind : List Char} (hc : c ∉ word)
    (h : word <:+: before ++ c :: behind) : word <:+: before ∨ word <:+: behind := by
  obtain ⟨left, right, heq⟩ := h
  rcases List.append_eq_append_iff.mp heq with ⟨rest, hbefore, _⟩ | ⟨rest, hword, hbehind⟩
  · exact Or.inl ⟨left, rest, hbefore.symm⟩
  cases rest with
  | nil => exact Or.inl ⟨left, [], by simpa using hword⟩
  | cons d rest =>
    obtain ⟨rfl, rfl⟩ := List.cons.inj hbehind
    rcases List.append_eq_append_iff.mp hword with ⟨start, _, hstart⟩ | ⟨start, _, hstart⟩
    · exact absurd (hstart ▸ by simp) hc
    · cases start with
      | nil => exact absurd (List.nil_append word ▸ hstart ▸ List.mem_cons_self) hc
      | cons d start =>
        obtain ⟨_, rfl⟩ := List.cons.inj hstart
        exact Or.inr ⟨start, right, rfl⟩

/-- Several words without apostrophes stand before or behind a quoted identifier, not in it. -/
theorem infix_of_infix_quoted {word : List Char} (hquote : '\'' ∉ word) (hblank : ' ' ∈ word)
    {lead name rest : String} (hname : isIdentifier name = true)
    (h : word <:+: (lead ++ quoted name ++ rest).toList) :
    word <:+: lead.toList ∨ word <:+: rest.toList := by
  have hlist : (lead ++ quoted name ++ rest).toList =
      lead.toList ++ '\'' :: (name.toList ++ '\'' :: rest.toList) := by
    rw [String.toList_append, toList_append_quoted]
    simp
  rw [hlist] at h
  rcases infix_of_infix_append_cons hquote h with hlead | hbehind
  · exact Or.inl hlead
  rcases infix_of_infix_append_cons hquote hbehind with hinside | hrest
  · have hchar := isIdentChar_of_mem hname (hinside.subset hblank)
    contradiction
  · exact Or.inr hrest

/-- A number is written with digits and a sign. -/
theorem isDigit_of_mem_repr {n : Int} {c : Char} (h : c ∈ (toString n).toList) :
    c.isDigit = true ∨ c = '-' := by
  change c ∈ n.repr.toList at h
  rw [Int.repr_eq_if] at h
  split at h
  · rw [Nat.toList_repr] at h
    exact Or.inl (Nat.isDigit_of_mem_toDigits (by decide) (by decide) h)
  · rw [String.toList_append, Nat.toList_repr, List.mem_append] at h
    rcases h with hsign | hdigits
    · exact Or.inr (List.mem_singleton.mp hsign)
    · exact Or.inl (Nat.isDigit_of_mem_toDigits (by decide) (by decide) hdigits)

/-- A text ends in the words in which its last part ends. -/
theorem isSuffixOf_toList_append {word : List Char} (text : String) {rest : String}
    (h : word <:+ rest.toList) : word.isSuffixOf (text ++ rest).toList = true := by
  rw [List.isSuffixOf_iff_suffix, String.toList_append]
  exact h.trans (List.suffix_append _ _)

/-- The last character of a text is the last one of its last part. -/
theorem getLast?_toList_append (text : String) {rest : String} {c : Char}
    (h : rest.toList.getLast? = some c) : (text ++ rest).toList.getLast? = some c := by
  rw [String.toList_append, List.getLast?_append, h, Option.some_or]

/-- A text does not end in words with another last character. -/
theorem isSuffixOf_of_getLast?_ne {c d : Char} {word text : List Char}
    (hword : word.getLast? = some c) (htext : text.getLast? = some d) (hne : c ≠ d) :
    word.isSuffixOf text = false := by
  rw [Bool.eq_false_iff, ne_eq, List.isSuffixOf_iff_suffix]
  rintro ⟨start, rfl⟩
  rw [List.getLast?_append, hword, Option.some_or] at htext
  exact hne (Option.some.inj htext)

/-- A warning that a declaration hides a built-in name. -/
def Diagnostic.isShadowing (d : Diagnostic) : Bool :=
  d.severity == .warning &&
    ("shadows a built-in function".toList.isSuffixOf d.message.toList ||
      "shadows a built-in constant".toList.isSuffixOf d.message.toList)

/-- A warning that suggests another name. -/
def Diagnostic.isSuggestion (d : Diagnostic) : Bool :=
  d.severity == .warning && decide ("Did you mean".toList <:+: d.message.toList)

/-- A warning about a variable that is never used. -/
def Diagnostic.isUnused (d : Diagnostic) : Bool :=
  d.severity == .warning && "declared but never used".toList.isSuffixOf d.message.toList

/-- The diagnostics that the options take out of the list. -/
def Config.hides (config : Config) (d : Diagnostic) : Bool :=
  (!config.checkStyle && d.source == "style-checker") ||
    (!config.requireSemicolons && d.message == "Missing semicolon") ||
    (!config.warnOnShadowing && d.isShadowing) ||
    (!config.suggestBuiltins && d.isSuggestion) ||
    (!config.reportUnusedVariables && d.isUnused)

/-- The causes of warnings that a declaration hides a built-in name. -/
def Cause.isShadowing : Cause → Bool
  | .functionShadowsBuiltin _ | .variableShadowsFunction _ | .variableShadowsConstant _ => true
  | _ => false

/-- The causes of warnings that suggest another name. -/
def Cause.isSuggestion : Cause → Bool
  | .unknownCall _ _ => true
  | _ => false

/-- The causes of warnings about variables that are never used. -/
def Cause.isUnused : Cause → Bool
  | .unusedVariable _ => true
  | _ => false

/-- The last character of a message of a warning. -/
def Cause.lastChar : Cause → Char
  | .lineTooLong _ => ')'
  | .variableShadowsConstant _ => 't'
  | .doubledEquals | .unknownCall _ _ => '?'
  | .unusedVariable _ => 'd'
  | _ => 'n'

/-- The message of a warning ends in its last character. -/
theorem Cause.getLast?_message {cause : Cause} (h : cause.severity = .warning) :
    cause.message.toList.getLast? = some cause.lastChar := by
  cases cause with
  | lineTooLong | functionShadowsBuiltin | variableShadowsFunction | variableShadowsConstant
  | unknownCall | unusedVariable =>
    exact getLast?_toList_append _ (by dsimp only [lastChar]; decide)
  | mixedIndentation | doubledEquals | missingSemicolon => decide
  | _ => simp [severity] at h

/-- The message of a warning does not end in words with another last character. -/
theorem Cause.isSuffixOf_message {cause : Cause} {words : List Char} {c : Char}
    (hwords : words.getLast? = some c) (h : cause.severity = .warning) (hne : c ≠ cause.lastChar) :
    words.isSuffixOf cause.message.toList = false :=
  isSuffixOf_of_getLast?_ne hwords (getLast?_message h) hne

/-- Warnings about hidden names are told by the end of their messages. -/
theorem Finding.isShadowing_toDiagnostic (f : Finding) :
    f.toDiagnostic.isShadowing = f.cause.isShadowing := by
  change (f.cause.severity == .warning &&
    ("shadows a built-in function".toList.isSuffixOf f.cause.message.toList ||
      "shadows a built-in constant".toList.isSuffixOf f.cause.message.toList)) = _
  generalize f.cause = cause
  have hfunction : "shadows a built-in function".toList.getLast? = some 'n' := by decide
  have hconstant : "shadows a built-in constant".toList.getLast? = some 't' := by decide
  cases cause with
  | functionShadowsBuiltin | variableShadowsFunction =>
    exact Bool.or_eq_true_iff.mpr (Or.inl (isSuffixOf_toList_append _ (by decide)))
  | variableShadowsConstant =>
    exact Bool.or_eq_true_iff.mpr (Or.inr (isSuffixOf_toList_append _ (by decide)))
  | lineTooLong | doubledEquals | unknownCall | unusedVariable =>
    rw [Cause.isSuffixOf_message hfunction rfl (by simp [Cause.lastChar]),
      Cause.isSuffixOf_message hconstant rfl (by simp [Cause.lastChar])]
    rfl
  | mixedIndentation | missingSemicolon => decide
  | _ => rfl

/-- Warnings about unused variables are told by the end of their messages. -/
theorem Finding.isUnused_toDiagnostic (f : Finding) :
    f.toDiagnostic.isUnused = f.cause.isUnused := by
  change (f.cause.severity == .warning &&
    "declared but never used".toList.isSuffixOf f.cause.message.toList) = _
  generalize f.cause = cause
  have hunused : "declared but never used".toList.getLast? = some 'd' := by decide
  cases cause with
  | unusedVariable => exact isSuffixOf_toList_append _ (by decide)
  | lineTooLong | functionShadowsBuiltin | variableShadowsFunction | variableShadowsConstant
  | unknownCall =>
    rw [Cause.isSuffixOf_message hunused rfl (by simp [Cause.lastChar])]
    rfl
  | mixedIndentation | doubledEquals | missingSemicolon => decide
  | _ => rfl

/-- A line that is too long is no suggestion. -/
theorem not_infix_message_lineTooLong (limit : Int) :
    ¬"Did you mean".toList <:+: (Cause.lineTooLong limit).message.toList := by
  have hletter : 'D' ∈ "Did you mean".toList := by decide
  refine not_infix_of_not_mem hletter fun hmem => ?_
  change 'D' ∈ ("Line too long (>" ++ toString limit ++ " characters)").toList at hmem
  rw [String.toList_append, String.toList_append, List.mem_append, List.mem_append] at hmem
  rcases hmem with (hstart | hnumber) | hend
  · revert hstart
    decide
  · rcases isDigit_of_mem_repr hnumber with hdigit | hsign <;> contradiction
  · revert hend
    decide

/-- Suggestions are told by their words, when the names in messages are identifiers. -/
theorem Finding.isSuggestion_toDiagnostic {f : Finding}
    (h : ∀ name, f.cause.name? = some name → isIdentifier name = true) :
    f.toDiagnostic.isSuggestion = f.cause.isSuggestion := by
  change (f.cause.severity == .warning &&
    decide ("Did you mean".toList <:+: f.cause.message.toList)) = _
  generalize f.cause = cause at h
  have hquoted : ∀ {lead name rest : String}, isIdentifier name = true →
      ¬"Did you mean".toList <:+: lead.toList → ¬"Did you mean".toList <:+: rest.toList →
      decide ("Did you mean".toList <:+: (lead ++ quoted name ++ rest).toList) = false := by
    intro lead name rest hname hlead hrest
    rw [decide_eq_false_iff_not]
    intro hinfix
    rcases infix_of_infix_quoted (by decide) (by decide) hname hinfix with hinfix | hinfix
    · exact hlead hinfix
    · exact hrest hinfix
  cases cause with
  | unknownCall =>
    refine decide_eq_true ?_
    apply infix_toList_append_left
    apply infix_toList_append_left
    exact infix_toList_append_right _ (by decide)
  | functionShadowsBuiltin | variableShadowsFunction | variableShadowsConstant
  | unusedVariable => exact hquoted (h _ rfl) (by decide) (by decide)
  | lineTooLong limit => exact decide_eq_false (not_infix_message_lineTooLong limit)
  | mixedIndentation | doubledEquals | missingSemicolon => decide
  | _ => rfl

/-- The diagnostics that the options take out are those of the findings that they do not show. -/
theorem Config.hides_toDiagnostic (config : Config) {f : Finding}
    (h : ∀ name, f.cause.name? = some name → isIdentifier name = true) :
    config.hides f.toDiagnostic = !config.shows f.cause := by
  have hmessage : (f.toDiagnostic.message == "Missing semicolon") =
      decide (f.cause = .missingSemicolon) := by
    rw [Bool.eq_iff_iff, beq_iff_eq, decide_eq_true_eq]
    constructor
    · exact Cause.eq_of_message_eq .missingSemicolon rfl
    · exact congrArg Cause.message
  have hsource : f.toDiagnostic.source = f.cause.source := rfl
  rw [Config.hides, hmessage, hsource, f.isShadowing_toDiagnostic, f.isUnused_toDiagnostic,
    Finding.isSuggestion_toDiagnostic h]
  generalize f.cause = cause
  cases cause <;>
    simp [Cause.source, Cause.isShadowing, Cause.isSuggestion, Cause.isUnused, Config.shows]

/-- A finding about a name is about an identifier. -/
theorem isIdentifier_of_mem_allFindings {tools : Grammar.Tools} {catalog : Catalog}
    {config : Config} {source : List Char} {f : Finding}
    (h : f ∈ allFindings tools catalog config source) {name : String}
    (hname : f.cause.name? = some name) : isIdentifier name = true := by
  rcases allFindings_cases h with hmarked | hnamed | ⟨line, row, _, hin⟩ | hhint
  · obtain ⟨cause, p, c, rfl, hmark, _⟩ := hmarked
    cases cause <;> simp_all [Finding.ofPosition, Cause.name?, Cause.mark?]
  · obtain ⟨cause, other, line, column, rfl, hother, hidentifier, _⟩ := hnamed
    exact Option.some.inj (hother.symm.trans hname) ▸ hidentifier
  · cases hin <;> simp [Cause.name?] at hname
  · generalize f.cause = cause at hname hhint
    cases cause <;> simp_all [Cause.name?, Cause.severity]

/-- Two lists of options that run the same checks: they agree on the length of lines and on the
grammar pass. -/
structure Config.RunsSame (a b : Config) : Prop where
  /-- The same lines are too long. -/
  maxLineLength : a.maxLineLength = b.maxLineLength
  /-- The grammar pass runs for both or for neither. -/
  grammarCheck : a.grammarCheck = b.grammarCheck
  /-- Definitions are expanded for both or for neither. -/
  grammarPreprocess : a.grammarPreprocess = b.grammarPreprocess
  /-- The same number of grammar problems is shown. -/
  grammarMaxIssues : a.grammarMaxIssues = b.grammarMaxIssues
  /-- The same definitions hold before the first line. -/
  defines : a.defines = b.defines

/-- The options with all five switches on. -/
def Config.showingAll (config : Config) : Config :=
  { config with
    checkStyle := true
    requireSemicolons := true
    warnOnShadowing := true
    suggestBuiltins := true
    reportUnusedVariables := true }

/-- All five switches are on. -/
theorem Config.showsAll_showingAll (config : Config) : config.showingAll.ShowsAll :=
  ⟨rfl, rfl, rfl, rfl, rfl⟩

/-- Options with all switches on run the same checks. -/
theorem Config.runsSame_showingAll (config : Config) : config.RunsSame config.showingAll :=
  ⟨rfl, rfl, rfl, rfl, rfl⟩

/-- Options that run the same checks as a third one run the same. -/
theorem Config.RunsSame.trans {a b c : Config} (h : a.RunsSame b) (h' : b.RunsSame c) :
    a.RunsSame c :=
  ⟨h.maxLineLength.trans h'.maxLineLength, h.grammarCheck.trans h'.grammarCheck,
    h.grammarPreprocess.trans h'.grammarPreprocess,
    h.grammarMaxIssues.trans h'.grammarMaxIssues, h.defines.trans h'.defines⟩

/-- A finding that no switch is for is shown. -/
theorem Config.shows_of_severity {cause : Cause} (config : Config) (h : cause.severity ≠ .warning) :
    config.shows cause = true := by
  cases cause <;> simp_all [shows, Cause.severity]

/-- What is shown of some findings holds all of them that no switch is for. -/
theorem Config.filter_shown {config : Config} {p : Finding → Bool}
    (h : ∀ f, p f = true → f.cause.severity ≠ .warning) (findings : List Finding) :
    (config.shown findings).filter p = findings.filter p := by
  rw [shown, List.filter_filter]
  refine List.filter_congr fun f _ => ?_
  cases hp : p f with
  | false => rfl
  | true => exact config.shows_of_severity (h f hp)

/-- The findings that make a program invalid are the same under all options. -/
theorem errorFindings_congr (catalog : Catalog) (a b : Config) (source : List Char) :
    errorFindings catalog a source = errorFindings catalog b source := by
  have herrors : ∀ config : Config,
      (checkDeclarations catalog config (scan source).text).findings.filter Finding.isError =
        (checkDeclarations catalog a.showingAll (scan source).text).findings.filter
          Finding.isError := by
    intro config
    rw [checkDeclarations_switches config a.showsAll_showingAll]
    refine Config.filter_shown (fun f hf => ?_) _
    simp_all [Finding.isError]
  rw [errorFindings, errorFindings, herrors a, herrors b]

/-- The same checks give the same hints. -/
theorem Config.RunsSame.hintFindings_eq {a b : Config} (h : a.RunsSame b) (tools : Grammar.Tools)
    (catalog : Catalog) (source : List Char) :
    hintFindings tools catalog a source = hintFindings tools catalog b source := by
  have hgrammar : Grammar.findings tools a source = Grammar.findings tools b source := by
    simp only [Grammar.findings, Grammar.findingsWith, Grammar.prepare, Grammar.Tools.preprocess,
      h.grammarPreprocess, h.grammarMaxIssues, h.defines]
  rw [hintFindings, hintFindings, h.grammarCheck, hgrammar, errorFindings_congr catalog a b]

/-- What is shown can be chosen before or after other findings are left out. -/
theorem Config.shown_filter (config : Config) (p : Finding → Bool) (findings : List Finding) :
    config.shown (findings.filter p) = (config.shown findings).filter p := by
  rw [shown, shown, List.filter_filter, List.filter_filter]
  exact List.filter_congr fun f _ => Bool.and_comm _ _

/-- The findings of an analysis are those of a run with all switches on that are shown. -/
theorem allFindings_switches (tools : Grammar.Tools) (catalog : Catalog) {config all : Config}
    (hall : all.ShowsAll) (h : config.RunsSame all) (source : List Char) :
    allFindings tools catalog config source =
      config.shown (allFindings tools catalog all source) := by
  have hliterals : config.shown (literalFindings (scan source)) =
      literalFindings (scan source) :=
    config.shown_eq_self fun f hf => config.shows_of_severity
      (by rw [(isMarked_of_mem_literalFindings hf).severity]; decide)
  have hlines : lineFindings config source (scan source) =
      config.shown (lineFindings all source (scan source)) :=
    lineFindings_switches hall h.maxLineLength.symm source (scan source)
  have hbalance : config.shown (checkBalance (scan source).text).toList =
      (checkBalance (scan source).text).toList :=
    config.shown_eq_self fun f hf => config.shows_of_severity
      (by rw [(isMarked_of_checkBalance (Option.mem_toList.mp hf)).severity]; decide)
  have hhints : config.shown (hintFindings tools catalog config source) =
      hintFindings tools catalog config source :=
    config.shown_eq_self fun f hf => config.shows_of_severity
      (by rw [severity_of_mem_hintFindings hf]; decide)
  simp only [allFindings, Config.shown_append, Config.shown_filter, hliterals, hbalance]
  rw [← hlines, ← checkDeclarations_switches _ hall, ← h.hintFindings_eq, hhints]

/-- The hints among the diagnostics do not depend on what is shown. -/
theorem hints_diagnostics_analyze (tools : Grammar.Tools) (catalog : Catalog)
    {config all : Config} (hall : all.ShowsAll) (h : config.RunsSame all) (source : List Char) :
    (analyze tools catalog config source).diagnostics.filter (·.severity == .hint) =
      diagnosticsOf
        ((allFindings tools catalog all source).filter (·.cause.severity == .hint)) := by
  rw [diagnostics_analyze, filter_diagnosticsOf, allFindings_switches tools catalog hall h]
  refine congrArg diagnosticsOf (Config.filter_shown (fun f hf => ?_) _)
  have hhint : f.cause.severity = .hint := eq_of_beq hf
  rw [hhint]
  decide

/-- The options only filter. Options that run the same checks give the same errors, the same verdict
and the same hints, and the diagnostics are those of a run with all five switches on, in the same
order, without the ones that the options hide. -/
theorem analyze_options (tools : Grammar.Tools) (catalog : Catalog) (source : List Char) :
    (∀ a b : Config, a.RunsSame b →
      (analyze tools catalog a source).errors = (analyze tools catalog b source).errors ∧
      (analyze tools catalog a source).isValid = (analyze tools catalog b source).isValid ∧
      (analyze tools catalog a source).diagnostics.filter (·.severity == .hint) =
        (analyze tools catalog b source).diagnostics.filter (·.severity == .hint)) ∧
    ∀ config : Config, (analyze tools catalog config source).diagnostics =
      (analyze tools catalog config.showingAll source).diagnostics.filter
        fun d => !config.hides d := by
  constructor
  · intro a b h
    refine ⟨?_, ?_, ?_⟩
    · rw [errors_analyze, errors_analyze, errorFindings_congr catalog a b]
    · rw [isValid_analyze, isValid_analyze, errorFindings_congr catalog a b]
    · have hall := b.showsAll_showingAll
      have hb := b.runsSame_showingAll
      rw [hints_diagnostics_analyze tools catalog hall (h.trans hb),
        hints_diagnostics_analyze tools catalog hall hb]
  · intro config
    rw [diagnostics_analyze, diagnostics_analyze,
      allFindings_switches tools catalog config.showsAll_showingAll config.runsSame_showingAll,
      filter_diagnosticsOf, Config.shown]
    refine congrArg diagnosticsOf (List.filter_congr fun f hf => ?_)
    rw [config.hides_toDiagnostic fun name hname => isIdentifier_of_mem_allFindings hf hname,
      Bool.not_not]

/-- A line whose indentation mixes blanks, in front of an open literal. -/
def mixedSource : List Char :=
  " \t'a".toList

/-- Without the style checks, the warning about the indentation goes and the error stays. -/
theorem analyze_options_style :
    (analyze absentTools ⟨[], [], [], [], "", false⟩ {} mixedSource).diagnostics.map (·.message) =
      ["Unterminated character literal", "Mixed tabs and spaces for indentation"] ∧
    (analyze absentTools ⟨[], [], [], [], "", false⟩ { checkStyle := false } mixedSource).errors =
      (analyze absentTools ⟨[], [], [], [], "", false⟩ {} mixedSource).errors ∧
    (analyze absentTools ⟨[], [], [], [], "", false⟩ { checkStyle := false }
      mixedSource).diagnostics.map (·.message) = ["Unterminated character literal"] := by
  obtain ⟨hsame, hfilter⟩ := analyze_options absentTools ⟨[], [], [], [], "", false⟩ mixedSource
  refine ⟨by decide, (hsame _ _ ⟨rfl, rfl, rfl, rfl, rfl⟩).1, ?_⟩
  rw [hfilter]
  decide

end BrickLint
