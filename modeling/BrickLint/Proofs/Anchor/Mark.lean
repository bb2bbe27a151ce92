import BrickLint.Declaration.Report
import BrickLint.Bracket.Balance
import BrickLint.Proofs.Anchor.Place
import BrickLint.Statement

/-!
# Findings about a character

The passes that read a text character by character report positions that they carry along. What is
reported stands there: an opening quote, a bracket, or the equals sign of an initializer.
-/

namespace BrickLint

open Text

/-- The character that a cause is about, when it is about one. -/
def Cause.mark? : Cause → Option Char
  | .unterminatedLiteral quote => some quote.mark
  | .unmatchedCloser bracket => some bracket.closer
  | .mismatchedCloser bracket _ _ => some bracket.closer
  | .unclosedOpener bracket => some bracket.opener
  | .indexedInitializer => some '='
  | _ => none

/-- The finding is about a character, which stands where the finding says. -/
def Finding.IsMarked (text : List Char) (f : Finding) : Prop :=
  ∃ cause p c, f = .ofPosition cause p 1 ∧ cause.mark? = some c ∧ charAt? text p = some c

/-- No finding is about a space. -/
theorem Cause.mark?_ne_space {cause : Cause} {c : Char} (h : cause.mark? = some c) : c ≠ ' ' := by
  rintro rfl
  cases cause with
  | unterminatedLiteral quote => cases quote <;> simp [Cause.mark?, Quote.mark] at h
  | unmatchedCloser bracket => cases bracket <;> simp [Cause.mark?, Bracket.closer] at h
  | mismatchedCloser bracket => cases bracket <;> simp [Cause.mark?, Bracket.closer] at h
  | unclosedOpener bracket => cases bracket <;> simp [Cause.mark?, Bracket.opener] at h
  | _ => simp [Cause.mark?] at h

/-- What a finding is about was not blanked. -/
theorem Finding.IsMarked.of_blanked {source text : List Char} {f : Finding}
    (h : List.Forall₂ Blanked source text) (hf : f.IsMarked text) : f.IsMarked source := by
  obtain ⟨cause, p, c, rfl, hmark, hchar⟩ := hf
  exact ⟨cause, p, c, rfl, hmark, charAt?_of_blanked h hchar (Cause.mark?_ne_space hmark)⟩

/-- Line feeds are kept. -/
theorem Region.keep_step_newline (region : Region) (p : Position) (next : Option Char) :
    (region.step p '\n' next).keep = true := by
  cases region with
  | literal quote escaped opened => cases escaped <;> rfl
  | _ => rfl

/-- Scanning blanks characters and does nothing else. -/
theorem forall₂_scanFrom (region : Region) (p : Position) (source : List Char) :
    List.Forall₂ Blanked source (scanFrom region p source).text := by
  induction source generalizing region p with
  | nil => exact .nil
  | cons c cs ih =>
    refine .cons ?_ (ih _ _)
    by_cases hkeep : (region.step p c cs.head?).keep = true
    · exact Or.inl (if_pos hkeep)
    · refine Or.inr ⟨if_neg hkeep, ?_⟩
      rintro rfl
      exact hkeep (region.keep_step_newline p cs.head?)

/-- Scrubbing blanks characters and does nothing else. -/
theorem forall₂_scan (source : List Char) : List.Forall₂ Blanked source (scan source).text :=
  forall₂_scanFrom .code Position.start source

/-- A character that opens a literal is its mark. -/
theorem Quote.mark_of_ofMark? {c : Char} {quote : Quote} (h : Quote.ofMark? c = some quote) :
    c = quote.mark := by
  unfold Quote.ofMark? at h
  split at h
  · obtain rfl : Quote.double = quote := by simpa using h
    assumption
  · split at h
    · obtain rfl : Quote.single = quote := by simpa using h
      assumption
    · simp at h

/-- A literal that a character of code leaves open is opened by it. -/
theorem Region.openLiteral?_codeStep {p : Position} {c : Char} {next : Option Char}
    {literal : OpenLiteral}
    (h : (Region.codeStep p c next).next.openLiteral? = some literal) :
    literal.opened = p ∧ c = literal.quote.mark := by
  unfold Region.codeStep at h
  split at h
  · simp [Region.openLiteral?] at h
  · split at h
    · simp [Region.openLiteral?] at h
    · cases hquote : Quote.ofMark? c with
      | none => simp [hquote, Region.openLiteral?] at h
      | some quote =>
        obtain rfl : ⟨quote, p⟩ = literal := by simpa [hquote, Region.openLiteral?] using h
        exact ⟨rfl, Quote.mark_of_ofMark? hquote⟩

/-- A literal that a line feed leaves open was open before. -/
theorem Region.openLiteral?_lineFeed {region : Region} {literal : OpenLiteral}
    (h : region.lineFeed.next.openLiteral? = some literal) :
    region.openLiteral? = some literal := by
  cases region with
  | literal quote escaped opened => cases escaped <;> simp_all [Region.lineFeed, openLiteral?]
  | _ => simp_all [Region.lineFeed, openLiteral?]

/-- A literal that a character leaves open was open before, unless the character opens it. -/
theorem Region.openLiteral?_step {region : Region} {p : Position} {c : Char} {next : Option Char}
    {literal : OpenLiteral} (h : (region.step p c next).next.openLiteral? = some literal) :
    region.openLiteral? = some literal ∨ literal.opened = p ∧ c = literal.quote.mark := by
  unfold Region.step at h
  split at h
  · exact Or.inl (Region.openLiteral?_lineFeed h)
  split at h
  · exact Or.inl h
  cases region with
  | code => exact Or.inr (Region.openLiteral?_codeStep h)
  | lineComment => simp [Region.openLiteral?] at h
  | blockComment =>
    dsimp only at h
    split at h <;> simp [Region.openLiteral?] at h
  | opening block => cases block <;> simp [Region.openLiteral?] at h
  | closing => simp [Region.openLiteral?] at h
  | literal quote escaped opened =>
    left
    cases escaped with
    | true => exact h
    | false =>
      dsimp only at h
      split at h
      · exact h
      split at h
      · simp [Region.openLiteral?] at h
      · exact h

/-- A literal that a character cuts off was open before. -/
theorem Region.cut_step {region : Region} {p : Position} {c : Char} {next : Option Char}
    {literal : OpenLiteral} (h : (region.step p c next).cut = some literal) :
    region.openLiteral? = some literal := by
  by_cases hc : c = '\n'
  · -- Only a line feed cuts a literal off.
    subst hc
    cases region with
    | literal quote escaped opened =>
      cases escaped with
      | true => simp [Region.step, Region.lineFeed] at h
      | false => simpa [Region.step, Region.lineFeed, Region.openLiteral?] using h
    | _ => simp [Region.step, Region.lineFeed] at h
  · unfold Region.step at h
    rw [if_neg hc] at h
    split at h
    · simp at h
    · cases region with
      | code =>
        dsimp only [Region.codeStep] at h
        split at h
        · simp at h
        split at h
        · simp at h
        split at h <;> simp at h
      | literal quote escaped opened =>
        cases escaped with
        | true => simp at h
        | false =>
          dsimp only at h
          split at h
          · simp at h
          split at h <;> simp at h
      | _ => simp at h

/-- The opening quote of a literal stands where the literal says. -/
def OpenLiteral.StandsIn (source : List Char) (literal : OpenLiteral) : Prop :=
  charAt? source literal.opened = some literal.quote.mark

/-- The literals without a closing quote start at their opening quotes. -/
theorem standsIn_of_mem_scanFrom {source : List Char} {region : Region} {p : Position}
    {cs : List Char} (hrest : RestAt source p cs)
    (hopen : ∀ literal, region.openLiteral? = some literal → literal.StandsIn source)
    {literal : OpenLiteral} (h : literal ∈ (scanFrom region p cs).unterminated) :
    literal.StandsIn source := by
  induction cs generalizing region p with
  | nil => exact hopen literal (by simpa [scanFrom] using h)
  | cons c cs ih =>
    rcases List.mem_append.mp h with hcut | hlater
    · exact hopen literal (Region.cut_step (by simpa using hcut))
    · refine ih hrest.advance (fun other hother => ?_) hlater
      rcases Region.openLiteral?_step hother with hbefore | ⟨hplace, hmark⟩
      · exact hopen other hbefore
      · have hne : c ≠ '\n' := by
          rw [hmark]
          cases other.quote <;> decide
        rw [OpenLiteral.StandsIn, hplace, ← hmark]
        exact hrest.charAt? hne

/-- Findings about literals stand at opening quotes. -/
theorem isMarked_of_mem_literalFindings {source : List Char} {f : Finding}
    (h : f ∈ literalFindings (scan source)) : f.IsMarked source := by
  obtain ⟨literal, hmem, rfl⟩ := List.mem_map.mp h
  have hstands : literal.StandsIn source :=
    standsIn_of_mem_scanFrom (restAt_start source) (by simp [Region.openLiteral?]) hmem
  exact ⟨_, _, _, rfl, rfl, hstands⟩

/-- A character that opens a bracket is its opener. -/
theorem Bracket.opener_of_ofOpener? {c : Char} {bracket : Bracket}
    (h : Bracket.ofOpener? c = some bracket) : bracket.opener = c := by
  simpa using List.find?_some h

/-- A character that closes a bracket is its closer. -/
theorem Bracket.closer_of_ofCloser? {c : Char} {bracket : Bracket}
    (h : Bracket.ofCloser? c = some bracket) : bracket.closer = c := by
  simpa using List.find?_some h

/-- The bracket fault stands at a bracket, when every open bracket stands where it was opened. -/
theorem isMarked_of_balanceFrom {text : List Char} {stack : List OpenBracket} {p : Position}
    {cs : List Char} (hrest : RestAt text p cs)
    (hstack : ∀ top ∈ stack, charAt? text top.opened = some top.bracket.opener) {f : Finding}
    (h : balanceFrom stack p cs = some f) : f.IsMarked text := by
  induction cs generalizing stack p with
  | nil =>
    obtain ⟨top, htop, rfl⟩ := Option.map_eq_some_iff.mp h
    exact ⟨_, _, _, rfl, rfl, hstack top (List.mem_of_head? htop)⟩
  | cons c cs ih =>
    cases hopener : Bracket.ofOpener? c with
    | some bracket =>
      have hc := Bracket.opener_of_ofOpener? hopener
      have hne : c ≠ '\n' := by rw [← hc]; cases bracket <;> decide
      simp only [balanceFrom, hopener] at h
      refine ih hrest.advance (fun top htop => ?_) h
      rcases List.mem_cons.mp htop with rfl | htop
      · exact hc ▸ hrest.charAt? hne
      · exact hstack top htop
    | none =>
      cases hcloser : Bracket.ofCloser? c with
      | none =>
        simp only [balanceFrom, hopener, hcloser] at h
        exact ih hrest.advance hstack h
      | some bracket =>
        have hc := Bracket.closer_of_ofCloser? hcloser
        have hne : c ≠ '\n' := by rw [← hc]; cases bracket <;> decide
        have hchar : charAt? text p = some bracket.closer := hc ▸ hrest.charAt? hne
        simp only [balanceFrom, hopener, hcloser] at h
        cases stack with
        | nil =>
          obtain rfl := Option.some.inj h
          exact ⟨_, _, _, rfl, rfl, hchar⟩
        | cons top rest =>
          dsimp only at h
          split at h
          · exact ih hrest.advance (fun other hother => hstack other (by simp [hother])) h
          · obtain rfl := Option.some.inj h
            exact ⟨_, _, _, rfl, rfl, hchar⟩

/-- The bracket fault of a text stands at a bracket. -/
theorem isMarked_of_checkBalance {text : List Char} {f : Finding}
    (h : checkBalance text = some f) : f.IsMarked text :=
  isMarked_of_balanceFrom (restAt_start text) (by simp) h

/-- Findings about initializers stand at equals signs. -/
theorem isMarked_of_mem_initializerFindings {text : List Char} {p : Position} {cs : List Char}
    (hrest : RestAt text p cs) {f : Finding} (h : f ∈ initializerFindings p cs) :
    f.IsMarked text := by
  induction cs generalizing p with
  | nil => simp [initializerFindings] at h
  | cons c cs ih =>
    unfold initializerFindings at h
    dsimp only at h
    split at h
    case isTrue hc =>
      rcases List.mem_cons.mp h with rfl | hlater
      · have hne : c ≠ '\n' := by rw [hc.1]; decide
        exact ⟨_, _, _, rfl, rfl, hc.1 ▸ hrest.charAt? hne⟩
      · exact ih hrest.advance hlater
    case isFalse => exact ih hrest.advance h

end BrickLint
