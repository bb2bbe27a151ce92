import BrickLint.Dialect
import BrickLint.Proofs.Header
import Mathlib.Data.List.Chain

/-!
# Edges of masks

A mask says which characters of a text are blanked. It has an edge where a covered and an uncovered
character meet. A block of assembly and a reference mark have their edges at characters that are not
blank. A default value starts at such a character too, but it may run to the end of its row, and
then its edge lies in front of the line feed.
-/

namespace BrickLint.Dialect

open Text

/-- Every character has an entry in the overlay of stand-ins. -/
theorem length_keywordOverlay (afterWord : Bool) (pending text : List Char) :
    (keywordOverlay afterWord pending text).length = text.length := by
  induction text generalizing afterWord pending with
  | nil => rfl
  | cons c text ih =>
    cases pending with
    | cons d rest => simp [keywordOverlay, ih]
    | nil =>
      simp only [keywordOverlay]
      split <;> simp [ih]

/-- Every character has an entry in the mask of assembly blocks. -/
theorem length_asmMask (afterWord : Bool) (inside : Nat) (text : List Char) :
    (asmMask afterWord inside text).length = text.length := by
  induction text generalizing afterWord inside with
  | nil => rfl
  | cons c text ih => simp [asmMask, ih]

/-- Every character has an entry in the mask of reference marks. -/
theorem length_referenceMask (afterWord afterType : Bool) (text : List Char) :
    (referenceMask afterWord afterType text).length = text.length := by
  induction text generalizing afterWord afterType with
  | nil => rfl
  | cons c text ih =>
    rw [referenceMask]
    split
    · simp [ih]
    split <;> simp [ih]

/-- Every character has an entry in the mask of values. -/
theorem length_valueMask (inside : Bool) (text : List Char) :
    (valueMask inside text).length = text.length := by
  induction text generalizing inside with
  | nil => rfl
  | cons c text ih => simp [valueMask, ih]

/-- A header ends in its row. -/
theorem stop_le_length {types : List String} {row : List Char} {header : HeaderMatch}
    (h : matchHeader? types row = some header) : header.stop ≤ row.length := by
  obtain ⟨cs, _, hname⟩ := List.exists_of_findSome?_eq_some h
  obtain ⟨_, _, hname⟩ := Option.bind_eq_some_iff.mp hname
  obtain ⟨rest, _, hname⟩ := Option.bind_eq_some_iff.mp hname
  obtain rfl := Option.some.inj hname
  exact Nat.sub_le _ _

/-- A row with a header falls into what stands before its parameters, the parameters, and what
stands behind them, which starts with a parenthesis unless it is empty. -/
theorem exists_defaultMask_eq {row : List Char} {header : HeaderMatch}
    (h : matchHeader? (variableTypes ++ functionTypes) row = some header) :
    ∃ front parameters behind, row = front ++ (parameters ++ behind) ∧
      (behind = [] ∨ behind.head? = some ')') ∧
      defaultMask row = List.replicate front.length false ++
        (valueMask false parameters ++ List.replicate behind.length false) := by
  refine ⟨row.take header.stop, (row.drop header.stop).takeWhile (· != ')'),
    (row.drop header.stop).dropWhile (· != ')'), ?_, ?_, ?_⟩
  · rw [List.takeWhile_append_dropWhile, List.take_append_drop]
  · cases hbehind : (row.drop header.stop).dropWhile (· != ')') with
    | nil => exact .inl rfl
    | cons c rest =>
      have hc := List.head?_dropWhile_not (· != ')') (row.drop header.stop)
      rw [hbehind] at hc
      exact .inr (by simpa using hc)
  · have hlength := congrArg List.length
      (List.takeWhile_append_dropWhile (p := (· != ')')) (l := row.drop header.stop))
    rw [List.length_append, List.length_drop] at hlength
    have hstop := stop_le_length h
    rw [defaultMask, h]
    simp only [List.append_assoc, List.length_take, Nat.min_eq_left hstop]
    congr 3
    omega

/-- Every character of a row has an entry in the mask of default values. -/
theorem length_defaultMask (row : List Char) : (defaultMask row).length = row.length := by
  cases h : matchHeader? (variableTypes ++ functionTypes) row with
  | none => simp [defaultMask, h]
  | some header =>
    obtain ⟨front, parameters, behind, hrow, _, hmask⟩ := exists_defaultMask_eq h
    rw [hmask, hrow]
    simp [length_valueMask]

/-- Every row is as long as its mask, and so is the text. -/
theorem length_intercalate_defaultMask (lines : List (List Char)) :
    ([false].intercalate (lines.map defaultMask)).length = (['\n'].intercalate lines).length := by
  induction lines with
  | nil => rfl
  | cons row rest ih =>
    cases rest with
    | nil => simp [List.intercalate, length_defaultMask]
    | cons next rest =>
      rw [List.map_cons, List.map_cons, List.intercalate_cons_cons, List.intercalate_cons_cons,
        List.length_append, List.length_append, List.length_append, List.length_append,
        length_defaultMask, ← List.map_cons, ih]
      rfl

/-- Every character has an entry in the mask of default values. -/
theorem length_defaultMasks (text : List Char) : (defaultMasks text).length = text.length := by
  rw [defaultMasks, length_intercalate_defaultMask, rows, List.intercalate_splitOn]

/-- Every character has an entry in the mask of blanked characters. -/
theorem length_blankMask (text : List Char) : (blankMask text).length = text.length := by
  simp [blankMask, length_asmMask, length_referenceMask, length_defaultMasks]

/-- Two neighbouring characters and their entries in a mask: where the mask has an edge, one of them
is not blank. -/
def EdgeIsVisible (a b : Char × Bool) : Prop :=
  a.2 = b.2 ∨ isBlank a.1 = false ∨ isBlank b.1 = false

/-- A mask that ends in front of a line feed has a visible edge otherwise. -/
def EdgeIsVisibleOrFeed (a b : Char × Bool) : Prop :=
  EdgeIsVisible a b ∨ (b.1 = '\n' ∧ a.2 = true)

/-- A block runs to the end of the text, or its last character closes a brace. -/
def EndsAtBrace (length : Nat) (text : List Char) : Prop :=
  text.length ≤ length ∨ ∃ last, length = last + 1 ∧ text[last]? = some '}'

/-- What stands in front of a block does not change its end. -/
theorem EndsAtBrace.append {length : Nat} {text : List Char} (h : EndsAtBrace length text)
    (front : List Char) : EndsAtBrace (front.length + length) (front ++ text) := by
  rcases h with hlength | ⟨last, rfl, hlast⟩
  · exact .inl (by simpa using hlength)
  · refine .inr ⟨front.length + last, rfl, ?_⟩
    rwa [List.getElem?_append_right (by omega), Nat.add_sub_cancel_left]

/-- Behind the first character of a block the rest of it follows. -/
theorem EndsAtBrace.tail {length : Nat} {c : Char} {text : List Char}
    (h : EndsAtBrace (length + 1) (c :: text)) :
    length = 0 ∧ c = '}' ∨ EndsAtBrace length text := by
  rcases h with hlength | ⟨last, hlast, hbrace⟩
  · exact .inr (.inl (Nat.le_of_succ_le_succ hlength))
  · obtain rfl := Nat.succ.inj hlast
    cases length with
    | zero => exact .inl ⟨rfl, by simpa using hbrace⟩
    | succ last => exact .inr (.inr ⟨last, rfl, by simpa using hbrace⟩)

/-- Braces end at the end of the text or at a brace. -/
theorem endsAtBrace_bracedLength (depth : Nat) (text : List Char) :
    EndsAtBrace (bracedLength depth text) text := by
  induction text generalizing depth with
  | nil => exact .inl (Nat.zero_le _)
  | cons c text ih =>
    have hlater : ∀ depth, EndsAtBrace (bracedLength depth text + 1) (c :: text) := fun depth => by
      simpa [Nat.add_comm] using (ih depth).append [c]
    rw [bracedLength]
    split
    · exact hlater _
    split
    case isTrue hc =>
      split
      · exact .inr ⟨0, rfl, by simp [hc]⟩
      · exact hlater _
    case isFalse => exact hlater _

/-- A block of assembly starts with a letter, and ends at the end of the text or at a brace. -/
theorem endsAtBrace_of_asmLength? {text : List Char} {length : Nat}
    (h : asmLength? text = some length) : text.head? = some 'a' ∧ EndsAtBrace length text := by
  obtain ⟨rest, hrest, h⟩ := Option.bind_eq_some_iff.mp h
  obtain rfl := isPrefixOf?_eq_some_iff.mp hrest
  dsimp only at h
  split at h
  case isFalse => simp at h
  obtain rfl := Option.some.inj h
  obtain ⟨front, hfront⟩ := stripStart_suffix rest
  have hends := (endsAtBrace_bracedLength 0 (stripStart rest)).append ("asm".toList ++ front)
  have hlength : ("asm".toList ++ rest).length - (stripStart rest).length =
      ("asm".toList ++ front).length := by
    have := congrArg List.length hfront
    simp only [List.length_append] at this ⊢
    omega
  rw [hlength]
  rw [List.append_assoc, hfront] at hends
  exact ⟨rfl, hends⟩

/-- A block that starts at a character is found in front of a letter. -/
theorem endsAtBrace_found {afterWord : Bool} {c : Char} {text : List Char} {found : Nat}
    (h : (if afterWord then 0 else (asmLength? (c :: text)).getD 0) = found) (hfound : 0 < found) :
    c = 'a' ∧ EndsAtBrace found (c :: text) := by
  subst h
  split at hfound
  · simp at hfound
  · cases hlength : asmLength? (c :: text) with
    | none => simp [hlength] at hfound
    | some length =>
      obtain ⟨hc, hends⟩ := endsAtBrace_of_asmLength? hlength
      rw [if_neg ‹_›, Option.getD_some]
      exact ⟨Option.some.inj hc, hends⟩

/-- Behind a covered character the rest of its block follows. The block goes on there, or it ends
at a brace or with the text. -/
theorem edge_behind_covered {covered : Nat} {c : Char} {text : List Char}
    (h : 0 < covered → EndsAtBrace covered (c :: text)) :
    (0 < covered - 1 → EndsAtBrace (covered - 1) text) ∧
      (decide (0 < covered) = decide (0 < covered - 1) ∨ isBlank c = false ∨ text = []) := by
  cases covered with
  | zero => exact ⟨fun hpos => absurd hpos (by decide), .inl rfl⟩
  | succ covered =>
    rw [Nat.add_sub_cancel]
    rcases (h (Nat.succ_pos _)).tail with ⟨rfl, rfl⟩ | hends
    · exact ⟨fun hpos => absurd hpos (by decide), .inr (.inl (by decide : isBlank '}' = false))⟩
    · refine ⟨fun _ => hends, ?_⟩
      rcases hends with hlength | ⟨last, rfl, _⟩
      · cases covered with
        | zero => exact .inr (.inr (List.eq_nil_of_length_eq_zero (Nat.le_zero.mp hlength)))
        | succ => exact .inl rfl
      · exact .inl rfl

/-- The edges of assembly blocks are visible. The first `inside` characters belong to a block, and
`previous` stands in front of the text. -/
theorem isChain_asmMask {afterWord : Bool} {inside : Nat} {text : List Char}
    {previous : Char × Bool} (hinside : 0 < inside → EndsAtBrace inside text)
    (hedge : previous.2 = decide (0 < inside) ∨ isBlank previous.1 = false ∨ text = []) :
    List.IsChain EdgeIsVisible (previous :: text.zip (asmMask afterWord inside text)) := by
  induction text generalizing afterWord inside previous with
  | nil => exact .singleton _
  | cons c text ih =>
    rw [asmMask]
    generalize hfound : (if afterWord then 0 else (asmLength? (c :: text)).getD 0) = found
    have hblock : 0 < max inside found → EndsAtBrace (max inside found) (c :: text) := by
      intro hpos
      rcases Nat.le_total found inside with hle | hle
      · rw [Nat.max_eq_left hle] at hpos ⊢
        exact hinside hpos
      · rw [Nat.max_eq_right hle] at hpos ⊢
        exact (endsAtBrace_found hfound hpos).2
    have hfront : EdgeIsVisible previous (c, decide (0 < max inside found)) := by
      rcases hedge with hsame | hblank | hnil
      · rcases Nat.eq_zero_or_pos found with rfl | hpos
        · exact .inl (by simpa using hsame)
        · obtain rfl := (endsAtBrace_found hfound hpos).1
          exact .inr (.inr (by decide : isBlank 'a' = false))
      · exact .inr (.inl hblank)
      · simp at hnil
    generalize max inside found = covered at hblock hfront
    obtain ⟨hlater, hnext⟩ := edge_behind_covered hblock
    exact List.isChain_cons_cons.mpr ⟨hfront, ih hlater hnext⟩

/-- A reference mark is an ampersand. -/
theorem referenceMask_spec {afterWord afterType : Bool} {text : List Char} {k : Nat}
    (h : (referenceMask afterWord afterType text)[k]? = some true) : text[k]? = some '&' := by
  induction text generalizing afterWord afterType k with
  | nil => simp [referenceMask] at h
  | cons c text ih =>
    rw [referenceMask] at h
    cases k with
    | zero =>
      split at h
      · simp at h
      split at h
      · simp at h
      · simp only [List.getElem?_cons_zero, Option.some.injEq, Bool.and_eq_true, beq_iff_eq] at h
        rw [h.1, List.getElem?_cons_zero]
    | succ k =>
      rw [List.getElem?_cons_succ]
      split at h
      · exact ih h
      split at h
      · exact ih h
      · exact ih h

/-- The edges of a value are visible: it starts at an equals sign and ends in front of a comma. -/
theorem isChain_valueMask {text : List Char} (previous : Char × Bool) :
    List.IsChain EdgeIsVisible (previous :: text.zip (valueMask previous.2 text)) := by
  induction text generalizing previous with
  | nil => exact .singleton _
  | cons c text ih =>
    rw [valueMask]
    refine List.isChain_cons_cons.mpr ⟨?_, ih (c, c == '=' || (previous.2 && c != ','))⟩
    by_cases hequals : c = '='
    · subst hequals
      exact .inr (.inr (by decide : isBlank '=' = false))
    by_cases hcomma : c = ','
    · subst hcomma
      exact .inr (.inr (by decide : isBlank ',' = false))
    · refine .inl ?_
      have hequals' : (c == '=') = false := beq_eq_false_iff_ne.mpr hequals
      have hcomma' : (c != ',') = true := bne_iff_ne.mpr hcomma
      rw [hequals', hcomma', Bool.false_or, Bool.and_true]

/-- A chain goes on behind its last element. -/
theorem isChain_cons_append {α : Type} {R : α → α → Prop} {a : α} {l k : List α}
    (hl : List.IsChain R (a :: l)) (hk : ∀ b ∈ (a :: l).getLast?, List.IsChain R (b :: k)) :
    List.IsChain R (a :: (l ++ k)) := by
  rw [← List.cons_append, List.isChain_append]
  refine ⟨hl, ?_, fun b hb c hc => ?_⟩
  · exact (hk _ List.getLast?_cons).tail
  · obtain ⟨rest, rfl⟩ := List.head?_eq_some_iff.mp hc
    exact (List.isChain_cons_cons.mp (hk b hb)).1

/-- A mask that covers nothing has no edge. -/
theorem isChain_uncovered (text : List Char) {previous : Char × Bool} (h : previous.2 = false) :
    List.IsChain EdgeIsVisible (previous :: text.zip (List.replicate text.length false)) := by
  induction text generalizing previous with
  | nil => exact .singleton _
  | cons c text ih => exact List.isChain_cons_cons.mpr ⟨.inl h, ih rfl⟩

/-- The edges of default values within a row are visible. -/
theorem isChain_defaultMask (row : List Char) {previous : Char × Bool} (h : previous.2 = false) :
    List.IsChain EdgeIsVisible (previous :: row.zip (defaultMask row)) := by
  cases hheader : matchHeader? (variableTypes ++ functionTypes) row with
  | none =>
    have hmask : defaultMask row = List.replicate row.length false := by
      rw [defaultMask, hheader]
      exact List.map_const'
    exact hmask ▸ isChain_uncovered row h
  | some header =>
    obtain ⟨front, parameters, behind, hrow, hbehind, hmask⟩ := exists_defaultMask_eq hheader
    rw [hmask, hrow, List.zip_append (by simp), List.zip_append (by simp [length_valueMask])]
    refine isChain_cons_append (isChain_uncovered front h) fun a ha => ?_
    have ha : a.2 = false := by
      rcases List.mem_cons.mp (List.mem_of_mem_getLast? ha) with rfl | hmem
      · exact h
      · exact List.eq_of_mem_replicate (List.of_mem_zip hmem).2
    refine isChain_cons_append (ha ▸ isChain_valueMask a) fun b _ => ?_
    rcases hbehind with rfl | hparen
    · exact .singleton _
    · obtain ⟨rest, rfl⟩ := List.head?_eq_some_iff.mp hparen
      exact List.isChain_cons_cons.mpr
        ⟨.inr (.inr (by decide : isBlank ')' = false)), isChain_uncovered rest rfl⟩

/-- The edges of default values are visible, or they lie in front of a line feed. -/
theorem isChain_intercalate_defaultMask (lines : List (List Char)) {previous : Char × Bool}
    (h : previous.2 = false) : List.IsChain EdgeIsVisibleOrFeed (previous ::
      (['\n'].intercalate lines).zip ([false].intercalate (lines.map defaultMask))) := by
  have hrow : ∀ row : List Char,
      List.IsChain EdgeIsVisibleOrFeed (previous :: row.zip (defaultMask row)) :=
    fun row => (isChain_defaultMask row h).imp fun _ _ => .inl
  induction lines generalizing previous with
  | nil => exact .singleton _
  | cons row rest ih =>
    cases rest with
    | nil => simpa [List.intercalate] using hrow row
    | cons next rest =>
      rw [List.map_cons, List.map_cons, List.intercalate_cons_cons, List.intercalate_cons_cons,
        List.append_assoc, List.append_assoc, List.zip_append (length_defaultMask row).symm]
      refine isChain_cons_append (hrow row) fun a _ => ?_
      refine List.isChain_cons_cons.mpr ⟨?_, ih rfl fun row => ?_⟩
      · cases ha : a.2 with
        | false => exact .inl (.inl ha)
        | true => exact .inr ⟨rfl, ha⟩
      · exact (isChain_defaultMask row rfl).imp fun _ _ => .inl

/-- Neighbouring characters and their entries in a mask are related by a chain. -/
theorem exists_rel_of_isChain_zip {R : Char × Bool → Char × Bool → Prop} {text : List Char}
    {mask : List Bool} (hlength : mask.length = text.length) (h : List.IsChain R (text.zip mask))
    {k : Nat} {c d : Char} (hc : text[k]? = some c) (hd : text[k + 1]? = some d) :
    ∃ a b, mask[k]? = some a ∧ mask[k + 1]? = some b ∧ R (c, a) (d, b) := by
  obtain ⟨hk, rfl⟩ := List.getElem?_eq_some_iff.mp hc
  obtain ⟨hnext, rfl⟩ := List.getElem?_eq_some_iff.mp hd
  refine ⟨_, _, List.getElem?_eq_getElem (by omega), List.getElem?_eq_getElem (by omega), ?_⟩
  have hrel := List.isChain_iff_getElem.mp h k (by simp; omega)
  simpa using hrel

/-- Between blank characters there is no visible edge. -/
theorem EdgeIsVisible.eq_of_isBlank {a b : Char × Bool} (h : EdgeIsVisible a b)
    (ha : isBlank a.1 = true) (hb : isBlank b.1 = true) : a.2 = b.2 := by
  rcases h with h | h | h
  · exact h
  · exact absurd ha (by rw [h]; decide)
  · exact absurd hb (by rw [h]; decide)

section Between

variable {text : List Char} {k : Nat} {c d : Char}

/-- No blank character is a reference mark. -/
theorem referenceMask_of_isBlank (hc : text[k]? = some c) (hblank : isBlank c = true) :
    (referenceMask false false text)[k]? = some false := by
  have hk : k < (referenceMask false false text).length := by
    rw [length_referenceMask]
    exact (List.getElem?_eq_some_iff.mp hc).1
  cases hmark : (referenceMask false false text)[k] with
  | false => rw [List.getElem?_eq_getElem hk, hmark]
  | true =>
    have hfound := referenceMask_spec ((List.getElem?_eq_getElem hk).trans (congrArg some hmark))
    obtain rfl : '&' = c := Option.some.inj (hfound.symm.trans hc)
    exact absurd hblank (by decide)

variable (hc : text[k]? = some c) (hd : text[k + 1]? = some d) (hblank : isBlank c = true)
  (hblank' : isBlank d = true)

include hc hd hblank hblank'

/-- No assembly block starts or ends between blank characters. -/
theorem asmMask_between :
    ∃ b, (asmMask false 0 text)[k]? = some b ∧ (asmMask false 0 text)[k + 1]? = some b := by
  have hchain : List.IsChain EdgeIsVisible ((' ', false) :: text.zip (asmMask false 0 text)) :=
    isChain_asmMask (fun h => absurd h (by decide)) (.inl rfl)
  obtain ⟨a, b, ha, hb, hedge⟩ :=
    exists_rel_of_isChain_zip (length_asmMask false 0 text) hchain.tail hc hd
  obtain rfl : a = b := hedge.eq_of_isBlank hblank hblank'
  exact ⟨a, ha, hb⟩

/-- No default value starts between blank characters, and it ends there only in front of a line
feed. -/
theorem defaultMasks_between :
    ∃ a b, (defaultMasks text)[k]? = some a ∧ (defaultMasks text)[k + 1]? = some b ∧
      (a = b ∨ (d = '\n' ∧ a = true)) := by
  have hstart : ((' ', false) : Char × Bool).2 = false := rfl
  have hchain := isChain_intercalate_defaultMask (rows text) hstart
  rw [rows, List.intercalate_splitOn] at hchain
  obtain ⟨a, b, ha, hb, hedge⟩ :=
    exists_rel_of_isChain_zip (length_defaultMasks text) hchain.tail hc hd
  exact ⟨a, b, ha, hb, hedge.imp_left fun h => h.eq_of_isBlank hblank hblank'⟩

/-- The blanked part of a text starts and ends at characters that are not blank, except where a
default value runs to the end of its row outside assembly blocks. -/
theorem blankMask_between :
    (blankMask text)[k + 1]? = (blankMask text)[k]? ∨
      (d = '\n' ∧ (defaultMasks text)[k]? = some true ∧
        (asmMask false 0 text)[k + 1]? = some false) := by
  obtain ⟨asm, hasm, hasm'⟩ := asmMask_between hc hd hblank hblank'
  obtain ⟨value, value', hvalue, hvalue', hedge⟩ :=
    defaultMasks_between hc hd hblank hblank'
  have hentry : ∀ {i : Nat} {b : Bool}, (asmMask false 0 text)[i]? = some asm →
      (referenceMask false false text)[i]? = some false → (defaultMasks text)[i]? = some b →
      (blankMask text)[i]? = some (asm || b) := by
    intro i b ha href hb
    simp [blankMask, List.getElem?_zipWith, ha, href, hb]
  rw [hentry hasm (referenceMask_of_isBlank hc hblank) hvalue,
    hentry hasm' (referenceMask_of_isBlank hd hblank') hvalue']
  rcases hedge with rfl | ⟨rfl, rfl⟩
  · exact .inl rfl
  · cases asm with
    | false => exact .inr ⟨rfl, hvalue, hasm'⟩
    | true => exact .inl rfl

end Between

end BrickLint.Dialect
