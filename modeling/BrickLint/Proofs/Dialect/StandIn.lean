import BrickLint.Dialect
import Mathlib.Data.List.Chain

/-!
# Stand-ins of keywords

A stand-in covers the characters of a keyword, one for one. It is made of letters, with a star and
spaces behind them, so it puts no quote and no slash into a text, and its star has a letter of the
keyword in front of it.
-/

namespace BrickLint.Dialect

open Text

/-- The characters of stand-ins. -/
def IsStandInChar (c : Char) : Prop :=
  c.isAlpha = true ∨ c = '*' ∨ c = ' '

instance (c : Char) : Decidable (IsStandInChar c) :=
  inferInstanceAs (Decidable (c.isAlpha = true ∨ c = '*' ∨ c = ' '))

/-- Two neighbouring characters and their stand-ins: a stand-in takes the place of a word character,
and a star does so behind another one. -/
def StandsInWord (a b : Char × Option Char) : Prop :=
  ∀ d, b.2 = some d →
    isWordChar b.1 = true ∧ IsStandInChar d ∧ (d = '*' → isWordChar a.1 = true)

/-- A stand-in has the length of its word, and does not start with a star. -/
theorem standIn?_spec {word cs : List Char} (h : standIn? word = some cs) :
    cs.length = word.length ∧ (∀ d ∈ cs, IsStandInChar d) ∧ cs.head? ≠ some '*' := by
  have htable : ∀ pair ∈ standIns, pair.2.length ≤ pair.1.length ∧
      pair.2.toList.all (fun d => IsStandInChar d) = true ∧
        pair.2.toList.head? ≠ some '*' := by decide
  obtain ⟨text, htext, rfl⟩ := Option.map_eq_some_iff.mp h
  obtain ⟨before, after, hsplit, _⟩ := List.lookup_eq_some_iff.mp htext
  obtain ⟨hlength, hchars, hhead⟩ := htable (String.ofList word, text) (by simp [hsplit])
  have hword : (String.ofList word).length = word.length := String.length_ofList
  dsimp only at hlength
  refine ⟨?_, fun d hd => ?_, fun hstar => ?_⟩
  · rw [List.length_append, List.length_replicate, String.length_toList]
    omega
  · rcases List.mem_append.mp hd with hd | hd
    · exact of_decide_eq_true (List.all_eq_true.mp hchars d hd)
    · exact .inr (.inr (List.eq_of_mem_replicate hd))
  · rw [List.head?_append] at hstar
    cases hfirst : text.toList.head? with
    | some d => exact hhead (by simpa [hfirst] using hstar)
    | none =>
      rw [hfirst, Option.none_or, List.head?_replicate] at hstar
      split at hstar <;> simp at hstar

/-- A word of some length starts with a word character, and the rest of it follows. -/
theorem isWordChar_of_lt_length {length : Nat} {c : Char} {text : List Char}
    (h : length < ((c :: text).takeWhile isWordChar).length) :
    isWordChar c = true ∧ length ≤ (text.takeWhile isWordChar).length := by
  by_cases hc : isWordChar c = true
  · rw [List.takeWhile_cons_of_pos hc] at h
    exact ⟨hc, Nat.le_of_lt_succ h⟩
  · rw [List.takeWhile_cons_of_neg hc] at h
    exact absurd h (Nat.not_lt_zero _)

/-- Stand-ins take the place of words. The first characters of the text belong to a word whose
stand-in ends with `pending`, and `previous` stands in front of the text. -/
theorem isChain_keywordOverlay {afterWord : Bool} {pending text : List Char}
    {previous : Char × Option Char}
    (hlength : pending.length ≤ (text.takeWhile isWordChar).length)
    (hchars : ∀ d ∈ pending, IsStandInChar d)
    (hprevious : pending ≠ [] → isWordChar previous.1 = true) :
    List.IsChain StandsInWord (previous :: text.zip (keywordOverlay afterWord pending text)) := by
  induction text generalizing afterWord pending previous with
  | nil => exact .singleton _
  | cons c text ih =>
    cases pending with
    | cons d rest =>
      obtain ⟨hc, hrest⟩ := isWordChar_of_lt_length hlength
      obtain ⟨hd, hchars⟩ := List.forall_mem_cons.mp hchars
      refine List.isChain_cons_cons.mpr ⟨?_, ih hrest hchars fun _ => hc⟩
      rintro _ ⟨⟩
      exact ⟨hc, hd, fun _ => hprevious (by simp)⟩
    | nil =>
      rw [keywordOverlay]
      split
      case h_1 d rest hstandIn =>
        split at hstandIn
        · simp at hstandIn
        obtain ⟨hsame, hchars, hhead⟩ := standIn?_spec hstandIn
        obtain ⟨hc, hrest⟩ := isWordChar_of_lt_length hsame.le
        obtain ⟨hd, hchars⟩ := List.forall_mem_cons.mp hchars
        refine List.isChain_cons_cons.mpr ⟨?_, ih hrest hchars fun _ => hc⟩
        rintro _ ⟨⟩
        exact ⟨hc, hd, fun hstar => absurd (congrArg some hstar) hhead⟩
      case h_2 =>
        exact List.isChain_cons_cons.mpr
          ⟨nofun, ih (Nat.zero_le _) (by simp) fun hne => absurd rfl hne⟩

end BrickLint.Dialect
