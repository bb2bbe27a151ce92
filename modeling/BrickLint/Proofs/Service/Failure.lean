import BrickLint.Proofs.Anchor.Message
import BrickLint.Service

/-!
# Calls that fail

A call of a service fails when a line length is not positive, a path leads nowhere or a file cannot
be read. The answer tells: it starts like an error exactly when the call fails. A call that fails
leaves the session as it was.
-/

namespace BrickLint.Service

/-- An answer that reports an error. -/
def IsError (answer : String) : Prop :=
  "Error".toList <+: answer.toList

instance (answer : String) : Decidable (IsError answer) :=
  inferInstanceAs (Decidable ("Error".toList <+: answer.toList))

/-- Whether a call cannot do its work: a line length is not positive, a path leads nowhere or a file
cannot be read. -/
def Call.fails (files : FileStore) : Call → Bool
  | .configure options => options.maxLineLength < 1
  | .loadCatalog apiPath constantsPath => isMissing files apiPath || isMissing files constantsPath
  | .analyzeFile path root =>
    !files.contains root.toList || (readSource? files root.toList path.toList).isNone
  | _ => false

variable {tools : Grammar.Tools} {files : FileStore} {call : Call}

/-- A call that fails reports an error and changes nothing. -/
theorem perform_of_fails (tools : Grammar.Tools) (s : Session) (h : call.fails files = true) :
    IsError (perform tools s files call).1 ∧ (perform tools s files call).2 = s := by
  cases call with
  | configure options =>
    have hlength : options.maxLineLength < 1 := of_decide_eq_true h
    rw [perform, configure, if_pos hlength]
    exact ⟨by simp only; decide, rfl⟩
  | loadCatalog apiPath constantsPath =>
    rw [perform, loadCatalog]
    split
    case isTrue => exact ⟨prefix_toList_append _ (by decide), rfl⟩
    case isFalse hapi =>
      have hconstants : isMissing files constantsPath = true := by
        rcases Bool.or_eq_true_iff.mp h with hmissing | hmissing
        · exact absurd hmissing hapi
        · exact hmissing
      rw [if_pos hconstants]
      exact ⟨prefix_toList_append _ (by decide), rfl⟩
  | analyzeFile path root =>
    rw [perform, analyzeFile]
    split
    case isTrue => exact ⟨prefix_toList_append _ (by decide), rfl⟩
    case isFalse hroot =>
      have hpath : readSource? files root.toList path.toList = none := by
        rcases Bool.or_eq_true_iff.mp h with hmissing | hnone
        · exact absurd hmissing hroot
        · exact Option.isNone_iff_eq_none.mp hnone
      rw [hpath]
      exact ⟨prefix_toList_append _ (by decide), rfl⟩
  | analyzeSource | suggestName | catalogSummary => cases h

end BrickLint.Service
