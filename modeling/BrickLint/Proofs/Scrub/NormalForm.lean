import BrickLint.Proofs.Anchor.Mark
import BrickLint.Proofs.Scrub.Scan

/-!
# Bare texts

A text is bare when it holds neither quotes nor comment openers. Scrubbing makes every text bare:
a kept slash has no marker behind it in the source, and blanking puts none there. A bare text is
all code, so scrubbing it again changes nothing.
-/

namespace BrickLint

open Text

/-- A text without quotes and comment openers. -/
structure IsBare (text : List Char) : Prop where
  /-- No string literal is opened. -/
  no_double : '"' ∉ text
  /-- No character literal is opened. -/
  no_single : '\'' ∉ text
  /-- No line comment is opened. -/
  no_line : ¬['/', '/'] <:+: text
  /-- No block comment is opened. -/
  no_block : ¬['/', '*'] <:+: text

/-- In a bare text nothing is opened at the first character, and the rest is bare. -/
theorem isBare_cons {c : Char} {cs : List Char} :
    IsBare (c :: cs) ↔ ¬OpensPiece c cs.head? ∧ IsBare cs := by
  have hopener : ∀ marker : Char, ['/', marker] <:+: c :: cs ↔
      (c = '/' ∧ cs.head? = some marker) ∨ ['/', marker] <:+: cs := by
    intro marker
    rw [List.infix_cons_iff, List.cons_prefix_cons, eq_comm, List.head?_eq_some_iff]
    refine or_congr_left (and_congr_right fun _ => ?_)
    exact ⟨fun ⟨rest, h⟩ => ⟨rest, h.symm⟩, fun ⟨rest, h⟩ => ⟨rest, h.symm⟩⟩
  constructor
  · rintro ⟨hdouble, hsingle, hline, hblock⟩
    rw [List.mem_cons, not_or] at hdouble hsingle
    rw [hopener, not_or] at hline hblock
    refine ⟨?_, hdouble.2, hsingle.2, hline.2, hblock.2⟩
    rintro (rfl | rfl | ⟨hslash, hnext | hnext⟩)
    · exact hdouble.1 rfl
    · exact hsingle.1 rfl
    · exact hline.1 ⟨hslash, hnext⟩
    · exact hblock.1 ⟨hslash, hnext⟩
  · rintro ⟨hopens, hdouble, hsingle, hline, hblock⟩
    simp only [OpensPiece, not_or, not_and] at hopens
    refine ⟨?_, ?_, ?_, ?_⟩
    · exact fun h => (List.mem_cons.mp h).elim (fun h => hopens.1 h.symm) hdouble
    · exact fun h => (List.mem_cons.mp h).elim (fun h => hopens.2.1 h.symm) hsingle
    · rw [hopener]
      exact fun h => h.elim (fun h => (hopens.2.2 h.1).1 h.2) hline
    · rw [hopener]
      exact fun h => h.elim (fun h => (hopens.2.2 h.1).2 h.2) hblock

/-- A bare text is all code. -/
theorem scanFrom_of_isBare {text : List Char} (h : IsBare text) (p : Position) :
    scanFrom .code p text = ⟨text, []⟩ := by
  induction text generalizing p with
  | nil => rfl
  | cons c cs ih =>
    obtain ⟨hopens, hcs⟩ := isBare_cons.mp h
    simp [scanFrom, Region.step_code hopens, ih hcs]

/-- A character that is kept opens nothing. -/
theorem Region.not_opensPiece_of_keep {region : Region} {p : Position} {c : Char}
    {next : Option Char} (hkeep : (region.step p c next).keep = true) : ¬OpensPiece c next := by
  by_cases hend : c = '\n' ∨ c = '\r'
  · rcases hend with rfl | rfl <;> simp [OpensPiece]
  obtain ⟨hfeed, hreturn⟩ := not_or.mp hend
  cases region with
  | code =>
    simp only [Region.step, hfeed, hreturn, if_false, Region.codeStep] at hkeep
    rintro (rfl | rfl | ⟨rfl, rfl | rfl⟩) <;> simp [Quote.ofMark?] at hkeep
  | literal quote escaped opened =>
    cases escaped with
    | true => simp [Region.step, hfeed, hreturn] at hkeep
    | false =>
      simp only [Region.step, hfeed, hreturn, if_false] at hkeep
      split at hkeep
      · simp at hkeep
      · split at hkeep <;> simp at hkeep
  | _ => simp [Region.step, hfeed, hreturn] at hkeep

/-- Blanking puts no marker behind a character. -/
theorem opensPiece_of_blanked {c : Char} {source text : List Char}
    (h : List.Forall₂ Blanked source text) (hopens : OpensPiece c text.head?) :
    OpensPiece c source.head? := by
  have hmarker : ∀ marker, marker ≠ ' ' → text.head? = some marker →
      source.head? = some marker := by
    intro marker hspace hmarker
    rw [List.head?_eq_getElem?] at hmarker ⊢
    exact getElem?_of_blanked h hmarker hspace
  rcases hopens with hc | hc | ⟨hc, hnext | hnext⟩
  · exact Or.inl hc
  · exact Or.inr (Or.inl hc)
  · exact Or.inr (Or.inr ⟨hc, Or.inl (hmarker _ (by decide) hnext)⟩)
  · exact Or.inr (Or.inr ⟨hc, Or.inr (hmarker _ (by decide) hnext)⟩)

/-- What a scan leaves of a text is bare. -/
theorem isBare_scanFrom (region : Region) (p : Position) (source : List Char) :
    IsBare (scanFrom region p source).text := by
  induction source generalizing region p with
  | nil => exact ⟨by simp [scanFrom], by simp [scanFrom], by simp [scanFrom], by simp [scanFrom]⟩
  | cons c cs ih =>
    refine isBare_cons.mpr ⟨fun hopens => ?_, ih _ _⟩
    by_cases hkeep : (region.step p c cs.head?).keep = true
    · rw [if_pos hkeep] at hopens
      exact Region.not_opensPiece_of_keep hkeep
        (opensPiece_of_blanked (forall₂_scanFrom _ _ cs) hopens)
    · rw [if_neg hkeep] at hopens
      simp [OpensPiece] at hopens

/-- Scrubbing gives bare texts. -/
theorem isBare_scrub (source : List Char) : IsBare (scrub source) :=
  isBare_scanFrom .code .start source

/-- A bare text is scanned as it is. -/
theorem scan_of_isBare {text : List Char} (h : IsBare text) : scan text = ⟨text, []⟩ :=
  scanFrom_of_isBare h .start

/-- Scrubbing leaves a bare text alone. -/
theorem scrub_of_isBare {text : List Char} (h : IsBare text) : scrub text = text :=
  congrArg Scan.text (scan_of_isBare h)

/-- Scrubbing twice is scrubbing once, a scrubbed text holds no open literal, and the texts that
scrubbing leaves alone are those without quotes and comment openers. -/
theorem scrub_normalForm (source text : List Char) :
    scrub (scrub source) = scrub source ∧ (scan (scrub source)).unterminated = [] ∧
      (scrub text = text ↔ '"' ∉ text ∧ '\'' ∉ text ∧
        ¬['/', '/'] <:+: text ∧ ¬['/', '*'] <:+: text) := by
  have hbare := isBare_scrub source
  refine ⟨scrub_of_isBare hbare, congrArg Scan.unterminated (scan_of_isBare hbare), ?_, ?_⟩
  · intro hfixed
    obtain ⟨hdouble, hsingle, hline, hblock⟩ := hfixed ▸ isBare_scrub text
    exact ⟨hdouble, hsingle, hline, hblock⟩
  · rintro ⟨hdouble, hsingle, hline, hblock⟩
    exact scrub_of_isBare ⟨hdouble, hsingle, hline, hblock⟩

end BrickLint
