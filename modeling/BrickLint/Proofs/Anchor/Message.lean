import BrickLint.Proofs.Token
import BrickLint.Proofs.Anchor.Mark
import BrickLint.Proofs.Anchor.Name

/-!
# Reading messages

A message tells its cause. The first characters of a message tell the kinds of cause apart, and the
first text in quotes is the name or the bracket that the cause is about.
-/

namespace BrickLint

open Text

/-- The first four characters of the message of a cause. -/
def Cause.lead : Cause → List Char
  | .unterminatedLiteral _ => ['U', 'n', 't', 'e']
  | .lineTooLong _ => ['L', 'i', 'n', 'e']
  | .mixedIndentation => ['M', 'i', 'x', 'e']
  | .doubledEquals => ['I', 'n', 'v', 'a']
  | .missingSemicolon => ['M', 'i', 's', 's']
  | .unmatchedCloser _ => ['C', 'l', 'o', 's']
  | .mismatchedCloser _ _ _ => ['M', 'i', 's', 'm']
  | .unclosedOpener _ => ['U', 'n', 'c', 'l']
  | .functionRedeclared _ _ | .functionConflict _ _ | .functionShadowsBuiltin _
  | .unknownCall _ _ => ['F', 'u', 'n', 'c']
  | .variableRedeclared _ _ | .variableShadowsFunction _ | .variableShadowsConstant _
  | .undefinedVariable _ | .unusedVariable _ => ['V', 'a', 'r', 'i']
  | .indexedInitializer => ['A', 'r', 'r', 'a']
  | .internalFailure _ => ['I', 'n', 't', 'e']
  | .missingNode _ | .unexpectedText _ => ['G', 'r', 'a', 'm']
  | .noEntryPoint => ['N', 'o', ' ', '"']

/-- What starts a text starts every longer text. -/
theorem prefix_toList_append {lead : List Char} {text : String} (rest : String)
    (h : lead <+: text.toList) : lead <+: (text ++ rest).toList := by
  rw [String.toList_append]
  exact h.trans (List.prefix_append _ _)

/-- A message starts with its first four characters. -/
theorem Cause.lead_isPrefix (cause : Cause) : cause.lead <+: cause.message.toList := by
  cases cause with
  | unterminatedLiteral quote => cases quote <;> decide
  | mixedIndentation => decide
  | doubledEquals => decide
  | missingSemicolon => decide
  | indexedInitializer => decide
  | noEntryPoint => decide
  | internalFailure => exact prefix_toList_append _ (by rw [lead]; decide)
  | missingNode => exact prefix_toList_append _ (by rw [lead]; decide)
  | unexpectedText => exact prefix_toList_append _ (by rw [lead]; decide)
  | unmatchedCloser | unclosedOpener =>
    iterate 5 apply prefix_toList_append
    rw [lead]
    decide
  | mismatchedCloser =>
    iterate 6 apply prefix_toList_append
    rw [lead]
    decide
  | unknownCall =>
    iterate 4 apply prefix_toList_append
    rw [lead]
    decide
  | _ =>
    iterate 2 apply prefix_toList_append
    rw [lead]
    decide

/-- Every kind of cause has four characters. -/
theorem Cause.length_lead (cause : Cause) : cause.lead.length = 4 := by
  cases cause <;> rfl

/-- A message that starts with a text of four characters or more starts like it. -/
theorem Cause.lead_eq_of_isPrefix {cause : Cause} {text : String}
    (h : text.toList <+: cause.message.toList) (hlength : 4 ≤ text.toList.length) :
    cause.lead = text.toList.take 4 := by
  have hlead : cause.lead <+: text.toList :=
    List.prefix_of_prefix_length_le cause.lead_isPrefix h (by rw [cause.length_lead]; exact hlength)
  rw [List.prefix_iff_eq_take.mp hlead, cause.length_lead]

/-- Causes with a message of its own, in which nothing varies. -/
def Cause.isFixed : Cause → Bool
  | .unterminatedLiteral _ | .doubledEquals | .missingSemicolon | .indexedInitializer => true
  | _ => false

/-- A message in which nothing varies tells its cause. -/
theorem Cause.eq_of_message_eq {cause : Cause} (known : Cause) (hknown : known.isFixed = true)
    (h : cause.message = known.message) : cause = known := by
  have hlead : cause.lead = known.lead := by
    have hlong : 4 ≤ known.message.toList.length :=
      known.length_lead ▸ known.lead_isPrefix.length_le
    rw [lead_eq_of_isPrefix (h ▸ List.prefix_refl _) hlong, ← known.length_lead]
    exact (List.prefix_iff_eq_take.mp known.lead_isPrefix).symm
  cases known with
  | unterminatedLiteral quote =>
    cases cause with
    | unterminatedLiteral other =>
      cases quote <;> cases other <;> first | rfl | (exfalso; revert h; decide)
    | _ => simp [lead] at hlead
  | doubledEquals => cases cause <;> first | rfl | simp [lead] at hlead
  | missingSemicolon => cases cause <;> first | rfl | simp [lead] at hlead
  | indexedInitializer => cases cause <;> first | rfl | simp [lead] at hlead
  | _ => simp [isFixed] at hknown

/-- The text between the first two apostrophes. -/
def firstQuoted? (message : List Char) : Option (List Char) :=
  (afterFirst? '\'' message).map fun behind => behind.takeWhile (· != '\'')

/-- The first quoted text stands behind a text without apostrophes. -/
theorem firstQuoted?_append {lead name : List Char} (hlead : '\'' ∉ lead) (hname : '\'' ∉ name)
    (rest : List Char) : firstQuoted? (lead ++ '\'' :: (name ++ '\'' :: rest)) = some name := by
  have hkeep : ∀ {cs : List Char}, '\'' ∉ cs → ∀ c ∈ cs, (c != '\'') = true := by
    intro cs hcs c hc
    exact bne_iff_ne.mpr fun h => hcs (h ▸ hc)
  have hdrop : (lead ++ '\'' :: (name ++ '\'' :: rest)).dropWhile (· != '\'') =
      '\'' :: (name ++ '\'' :: rest) := by
    rw [List.dropWhile_append_of_pos (hkeep hlead)]
    simp
  have htake : (name ++ '\'' :: rest).takeWhile (· != '\'') = name :=
    takeWhile_append_of_stop (hkeep hname) (by simp)
  simp [firstQuoted?, afterFirst?, hdrop, afterChar?, htake]

/-- The characters of a text in quotes. -/
theorem toList_append_quoted (lead text : String) :
    (lead ++ quoted text).toList = lead.toList ++ '\'' :: (text.toList ++ ['\'']) := by
  simp [quoted, String.toList_append]

/-- The first quoted text of a message stands behind a text without apostrophes. -/
theorem firstQuoted?_of_isPrefix (lead : String) {text message : String}
    (hlead : '\'' ∉ lead.toList) (htext : '\'' ∉ text.toList)
    (h : (lead ++ quoted text).toList <+: message.toList) :
    firstQuoted? message.toList = some text.toList := by
  obtain ⟨rest, hrest⟩ := h
  have hlist : message.toList = lead.toList ++ '\'' :: (text.toList ++ '\'' :: rest) := by
    rw [← hrest, toList_append_quoted]
    simp
  rw [hlist, firstQuoted?_append hlead htext]

/-- The first quoted text is the name that a cause is about. -/
theorem Cause.firstQuoted?_of_name? {cause : Cause} {name : String}
    (h : cause.name? = some name) (hname : isIdentifier name = true) :
    firstQuoted? cause.message.toList = some name.toList := by
  have hquote : '\'' ∉ name.toList := fun hmem => by
    have := isIdentChar_of_mem hname hmem
    contradiction
  cases cause with
  | functionRedeclared | functionConflict =>
    obtain rfl := Option.some.inj h
    refine firstQuoted?_of_isPrefix "Function/task " (by decide) hquote ?_
    exact prefix_toList_append _ (List.prefix_refl _)
  | functionShadowsBuiltin =>
    obtain rfl := Option.some.inj h
    refine firstQuoted?_of_isPrefix "Function " (by decide) hquote ?_
    exact prefix_toList_append _ (List.prefix_refl _)
  | variableRedeclared | variableShadowsFunction | variableShadowsConstant | undefinedVariable
  | unusedVariable =>
    obtain rfl := Option.some.inj h
    refine firstQuoted?_of_isPrefix "Variable " (by decide) hquote ?_
    exact prefix_toList_append _ (List.prefix_refl _)
  | unknownCall =>
    obtain rfl := Option.some.inj h
    refine firstQuoted?_of_isPrefix "Function " (by decide) hquote ?_
    iterate 3 apply prefix_toList_append
    exact List.prefix_refl _
  | _ => simp [name?] at h

/-- The first quoted text of the balance check is the bracket that it is about. -/
theorem Cause.firstQuoted?_of_mark? {cause : Cause} {c : Char} (h : cause.mark? = some c)
    (hsource : cause.source = "balance-checker") :
    firstQuoted? cause.message.toList = some [c] := by
  have hchars : ∀ d : Char, (d.toString).toList = [d] := by simp
  rw [← hchars]
  cases cause with
  | unmatchedCloser bracket =>
    obtain rfl := Option.some.inj h
    refine firstQuoted?_of_isPrefix ("Closing " ++ bracket.name ++ " ") ?_ ?_ ?_
    · cases bracket <;> decide
    · cases bracket <;> decide
    · iterate 2 apply prefix_toList_append
      exact List.prefix_refl _
  | unclosedOpener bracket =>
    obtain rfl := Option.some.inj h
    refine firstQuoted?_of_isPrefix "Unclosed " (by decide) ?_ ?_
    · cases bracket <;> decide
    · iterate 4 apply prefix_toList_append
      exact List.prefix_refl _
  | mismatchedCloser bracket opened line =>
    obtain rfl := Option.some.inj h
    refine firstQuoted?_of_isPrefix "Mismatched " (by decide) ?_ ?_
    · cases bracket <;> decide
    · iterate 5 apply prefix_toList_append
      exact List.prefix_refl _
  | _ => simp [mark?, source] at h hsource

end BrickLint
