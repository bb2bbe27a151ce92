import BrickLint.Proofs.Dialect.Region
import BrickLint.Proofs.Dialect.StandIn

/-!
# Occurrences of keywords

The overlay of a text has stand-ins exactly where a keyword stands as a whole word, and there it has
the stand-in of that keyword, filled up with spaces.
-/

namespace BrickLint.Dialect

open Text

/-- A stand-in, filled up with spaces to the length of its keyword. -/
def filledUp (keyword standIn : String) : List Char :=
  standIn.toList ++ List.replicate (keyword.length - standIn.length) ' '

/-- A keyword stands at an offset of a text, as a whole word. -/
def IsKeywordAt (text : List Char) (start : Nat) (keyword standIn : String) : Prop :=
  (keyword, standIn) ∈ standIns ∧ ∃ front rest, text = front ++ (keyword.toList ++ rest) ∧
    front.length = start ∧ front.getLast?.any isWordChar = false ∧
      rest.head?.any isWordChar = false

/-- The words with a stand-in are the keywords. -/
theorem standIn?_eq_some_iff {word chars : List Char} :
    standIn? word = some chars ↔ ∃ keyword standIn, (keyword, standIn) ∈ standIns ∧
      word = keyword.toList ∧ chars = filledUp keyword standIn := by
  have hlookup : ∀ pair ∈ standIns, standIns.lookup pair.1 = some pair.2 := by decide
  constructor
  · intro h
    obtain ⟨text, htext, rfl⟩ := Option.map_eq_some_iff.mp h
    obtain ⟨before, after, hsplit, _⟩ := List.lookup_eq_some_iff.mp htext
    exact ⟨String.ofList word, text, by simp [hsplit], String.toList_ofList.symm,
      by rw [filledUp, String.length_ofList]⟩
  · rintro ⟨keyword, standIn, hmem, rfl, rfl⟩
    rw [standIn?, String.ofList_toList, hlookup _ hmem, Option.map_some, String.length_toList]
    rfl

/-- Keywords are words. -/
theorem isWordChar_of_keyword {keyword standIn : String} (h : (keyword, standIn) ∈ standIns)
    {c : Char} (hc : c ∈ keyword.toList) : isWordChar c = true := by
  have htable : ∀ pair ∈ standIns, pair.1.toList.all isWordChar = true := by decide
  exact List.all_eq_true.mp (htable _ h) c hc

/-- A filled up stand-in has the length of its keyword, and starts with a character. -/
theorem length_filledUp {keyword standIn : String} (h : (keyword, standIn) ∈ standIns) :
    (filledUp keyword standIn).length = keyword.length ∧ 0 < keyword.length := by
  have htable : ∀ pair ∈ standIns,
      (filledUp pair.1 pair.2).length = pair.1.length ∧ 0 < pair.1.length := by decide
  exact htable _ h

/-- What the overlay has for the first character of a text that starts with `word`, and what is left
of its stand-in behind it. -/
inductive OverlayStep (afterWord : Bool) (word : List Char) :
    List Char → Option Char → List Char → Prop
  /-- A stand-in that has been started goes on. -/
  | goesOn {d : Char} {rest : List Char} : OverlayStep afterWord word (d :: rest) (some d) rest
  /-- The stand-in of the word starts. -/
  | starts {d : Char} {rest : List Char} (hafter : afterWord = false)
      (hfound : standIn? word = some (d :: rest)) : OverlayStep afterWord word [] (some d) rest
  /-- The character has no stand-in. -/
  | keeps : OverlayStep afterWord word [] none []

/-- Behind its first character a word has one character less. -/
theorem length_takeWhile_cons_sub_one_le (c : Char) (text : List Char) :
    ((c :: text).takeWhile isWordChar).length - 1 ≤ (text.takeWhile isWordChar).length := by
  by_cases hc : isWordChar c = true
  · rw [List.takeWhile_cons_of_pos hc, List.length_cons, Nat.add_sub_cancel]
  · rw [List.takeWhile_cons_of_neg hc]
    exact Nat.zero_le _

/-- The overlay of a text by that of the rest. The first characters belong to a word whose stand-in
ends with `pending`. -/
theorem keywordOverlay_cons (afterWord : Bool) {pending text : List Char} {c : Char}
    (hpending : pending.length ≤ ((c :: text).takeWhile isWordChar).length) :
    ∃ entry later, OverlayStep afterWord ((c :: text).takeWhile isWordChar) pending entry later ∧
      later.length ≤ ((c :: text).takeWhile isWordChar).length - 1 ∧
        keywordOverlay afterWord pending (c :: text) =
          entry :: keywordOverlay (isWordChar c) later text := by
  cases pending with
  | cons d rest =>
    have hc := (isWordChar_of_lt_length hpending).1
    exact ⟨some d, rest, .goesOn, Nat.le_sub_one_of_lt hpending, by rw [keywordOverlay, hc]⟩
  | nil =>
    rw [keywordOverlay]
    split
    case h_1 d rest hfound =>
      split at hfound
      case isTrue => cases hfound
      case isFalse hafter =>
        have hlength := (standIn?_spec hfound).1.le
        have hc := (isWordChar_of_lt_length hlength).1
        exact ⟨some d, rest, .starts (by simpa using hafter) hfound, Nat.le_sub_one_of_lt hlength,
          by rw [hc]⟩
    case h_2 => exact ⟨none, [], .keeps, Nat.zero_le _, rfl⟩

/-- A word with a stand-in that does not go on in what stands behind it. -/
def HasStandIn (word rest : List Char) : Prop :=
  (standIn? word).isSome = true ∧ rest.head?.any isWordChar = false

/-- A stand-in in the overlay belongs to the one that has been started, or to a whole word with a
stand-in. -/
theorem keywordOverlay_cases {afterWord : Bool} {pending text : List Char} {k : Nat} {d : Char}
    (hpending : pending.length ≤ (text.takeWhile isWordChar).length)
    (h : (keywordOverlay afterWord pending text)[k]? = some (some d)) :
    k < pending.length ∨ LiesIn HasStandIn afterWord text k := by
  induction text generalizing afterWord pending k with
  | nil => simp [keywordOverlay] at h
  | cons c text ih =>
    obtain ⟨entry, later, hstep, hlater, hoverlay⟩ := keywordOverlay_cons afterWord hpending
    -- the first character and what is left of its stand-in belong to the same word
    have hhere : k < later.length + 1 → entry = some d ∨ later ≠ [] →
        k < pending.length ∨ LiesIn HasStandIn afterWord (c :: text) k := by
      intro hk hentry
      cases hstep with
      | goesOn => exact .inl hk
      | starts hafter hfound =>
        have hstop : ((c :: text).dropWhile isWordChar).head?.any isWordChar = false := by
          have hnot := List.head?_dropWhile_not isWordChar (c :: text)
          cases hhead : ((c :: text).dropWhile isWordChar).head? with
          | none => rfl
          | some b => rwa [hhead] at hnot
        have hword : HasStandIn ((c :: text).takeWhile isWordChar)
            ((c :: text).dropWhile isWordChar) := ⟨by rw [hfound]; rfl, hstop⟩
        rw [hafter, ← List.takeWhile_append_dropWhile (p := isWordChar) (l := c :: text)]
        exact .inr (.start hword (by rwa [← (standIn?_spec hfound).1]))
      | keeps => simp at hentry
    rw [hoverlay] at h
    cases k with
    | zero => exact hhere (Nat.succ_pos _) (.inl (Option.some.inj h))
    | succ k =>
      rcases ih (hlater.trans (length_takeWhile_cons_sub_one_le c text)) h with hk | hword
      · exact hhere (Nat.succ_lt_succ hk) (.inr (List.ne_nil_of_length_pos (by omega)))
      · exact .inr (hword.cons afterWord)

/-- Where the overlay has a stand-in, a keyword stands. -/
theorem exists_isKeywordAt {text : List Char} {k : Nat} {d : Char}
    (h : (keywordOverlay false [] text)[k]? = some (some d)) :
    ∃ start keyword standIn, IsKeywordAt text start keyword standIn ∧
      ∃ i < keyword.length, k = start + i := by
  obtain ⟨front, word, rest, rfl, hfront, ⟨hword, hrest⟩, i, hi, rfl⟩ :=
    (keywordOverlay_cases (Nat.zero_le _) h).resolve_left (Nat.not_lt_zero k)
  obtain ⟨chars, hchars⟩ := Option.isSome_iff_exists.mp hword
  obtain ⟨keyword, standIn, hmem, rfl, rfl⟩ := standIn?_eq_some_iff.mp hchars
  rw [endsInWord_false] at hfront
  exact ⟨front.length, keyword, standIn, ⟨hmem, front, rest, rfl, rfl, hfront, hrest⟩, i,
    by rwa [String.length_toList] at hi, rfl⟩

/-- A stand-in that has been started is finished. -/
theorem keywordOverlay_pending {pending word : List Char} (hlength : word.length = pending.length)
    (rest : List Char) : keywordOverlay true pending (word ++ rest) =
      pending.map some ++ keywordOverlay true [] rest := by
  induction word generalizing pending with
  | nil =>
    obtain rfl := List.length_eq_zero_iff.mp hlength.symm
    rfl
  | cons c word ih =>
    cases pending with
    | nil => simp at hlength
    | cons d pending =>
      rw [List.cons_append, keywordOverlay, ih (Nat.succ.inj hlength)]
      rfl

/-- A word with a stand-in is overlaid by it. -/
theorem keywordOverlay_word {word chars rest : List Char} (hchars : standIn? word = some chars)
    (hword : ∀ c ∈ word, isWordChar c = true) (hrest : rest.head?.any isWordChar = false)
    (hpos : 0 < word.length) : keywordOverlay false [] (word ++ rest) =
      chars.map some ++ keywordOverlay true [] rest := by
  have hlength := (standIn?_spec hchars).1
  cases word with
  | nil => simp at hpos
  | cons c word =>
    cases chars with
    | nil => simp at hlength
    | cons d chars =>
      have htake := takeWhile_append_of_stop hword hrest
      rw [List.cons_append] at htake ⊢
      rw [keywordOverlay, htake, if_neg (by decide), hchars]
      exact congrArg (some d :: ·) (keywordOverlay_pending (Nat.succ.inj hlength).symm rest)

/-- The first run of a text that does not end in a run is the same, whatever follows the text. -/
theorem takeWhile_append_of_last {p : Char → Bool} {text : List Char} (hne : text ≠ [])
    (hlast : text.getLast?.any p = false) (rest : List Char) :
    (text ++ rest).takeWhile p = text.takeWhile p := by
  rw [List.takeWhile_append, if_neg]
  intro hall
  have hmem : text.getLast hne ∈ text.takeWhile p := by
    rw [(List.takeWhile_prefix p).eq_of_length hall]
    exact List.getLast_mem hne
  rw [List.getLast?_eq_some_getLast hne, Option.any_some,
    List.all_eq_true.mp List.all_takeWhile _ hmem] at hlast
  cases hlast

/-- A text that does not end in a word has its overlay, whatever follows it. Its first characters
belong to a word whose stand-in ends with `pending`. -/
theorem keywordOverlay_append {afterWord : Bool} {pending front : List Char}
    (hpending : pending.length ≤ (front.takeWhile isWordChar).length)
    (hfront : front.getLast?.any isWordChar = false) (rest : List Char) :
    ∃ overlay, overlay.length = front.length ∧ keywordOverlay afterWord pending (front ++ rest) =
      overlay ++ keywordOverlay (endsInWord afterWord front) [] rest := by
  induction front generalizing afterWord pending with
  | nil =>
    obtain rfl := List.length_eq_zero_iff.mp (Nat.le_zero.mp hpending)
    exact ⟨[], rfl, rfl⟩
  | cons c front ih =>
    have hlast : front.getLast?.any isWordChar = false := by
      rw [List.getLast?_cons] at hfront
      cases hback : front.getLast? with
      | none => rfl
      | some b => simpa [hback] using hfront
    have hword := takeWhile_append_of_last (List.cons_ne_nil c front) hfront rest
    rw [List.cons_append] at hword
    rw [← hword] at hpending
    obtain ⟨entry, later, _, hlater, hoverlay⟩ := keywordOverlay_cons afterWord hpending
    rw [hword] at hlater
    obtain ⟨overlay, hlength, hrest⟩ :=
      ih (hlater.trans (length_takeWhile_cons_sub_one_le c front)) hlast
    refine ⟨entry :: overlay, congrArg (· + 1) hlength, ?_⟩
    rw [List.cons_append, hoverlay, hrest, endsInWord_cons]
    rfl

/-- Where a keyword stands, the overlay has its stand-in, filled up with spaces. -/
theorem IsKeywordAt.take_keywordOverlay {text : List Char} {start : Nat} {keyword standIn : String}
    (h : IsKeywordAt text start keyword standIn) :
    ((keywordOverlay false [] text).drop start).take keyword.length =
      (filledUp keyword standIn).map some := by
  obtain ⟨hmem, front, rest, rfl, rfl, hfront, hrest⟩ := h
  obtain ⟨hlength, hpos⟩ := length_filledUp hmem
  obtain ⟨overlay, hoverlay, hsplit⟩ :=
    @keywordOverlay_append false [] front (Nat.zero_le _) hfront (keyword.toList ++ rest)
  rw [hsplit, ← hoverlay, List.drop_left, endsInWord_false, hfront,
    keywordOverlay_word (standIn?_eq_some_iff.mpr ⟨keyword, standIn, hmem, rfl, rfl⟩)
      (fun c hc => isWordChar_of_keyword hmem hc) hrest (by rwa [String.length_toList]),
    ← hlength]
  exact List.take_left' (List.length_map _)

/-- Where a keyword stands, the overlay has the characters of its stand-in. -/
theorem IsKeywordAt.getElem?_keywordOverlay {text : List Char} {start : Nat}
    {keyword standIn : String} (h : IsKeywordAt text start keyword standIn) {i : Nat}
    (hi : i < keyword.length) : (keywordOverlay false [] text)[start + i]? =
      ((filledUp keyword standIn)[i]?).map some := by
  rw [← List.getElem?_map, ← h.take_keywordOverlay, List.getElem?_take_of_lt hi,
    List.getElem?_drop]

/-- Where a keyword stands, the text has word characters. -/
theorem IsKeywordAt.exists_isWordChar {text : List Char} {start : Nat} {keyword standIn : String}
    (h : IsKeywordAt text start keyword standIn) {i : Nat} (hi : i < keyword.length) :
    ∃ c, text[start + i]? = some c ∧ isWordChar c = true := by
  obtain ⟨hmem, front, rest, rfl, rfl, _, _⟩ := h
  rw [← String.length_toList] at hi
  refine ⟨keyword.toList[i], ?_, isWordChar_of_keyword hmem (List.getElem_mem hi)⟩
  rw [List.getElem?_append_right (by omega), Nat.add_sub_cancel_left,
    List.getElem?_append_left hi, List.getElem?_eq_getElem hi]

/-- A stand-in in the overlay is the character of a stand-in in the place of a word character. -/
theorem isStandInChar_of_keywordOverlay {text : List Char} {k : Nat} {d : Char}
    (h : (keywordOverlay false [] text)[k]? = some (some d)) :
    IsStandInChar d ∧ ∃ c, text[k]? = some c ∧ isWordChar c = true := by
  obtain ⟨start, keyword, standIn, hkeyword, i, hi, rfl⟩ := exists_isKeywordAt h
  refine ⟨?_, hkeyword.exists_isWordChar hi⟩
  rw [hkeyword.getElem?_keywordOverlay hi] at h
  obtain ⟨e, he, hsome⟩ := Option.map_eq_some_iff.mp h
  obtain rfl := Option.some.inj hsome
  exact (standIn?_spec (standIn?_eq_some_iff.mpr ⟨keyword, standIn, hkeyword.1, rfl, rfl⟩)).2.1 _
    (List.mem_of_getElem? he)

end BrickLint.Dialect
