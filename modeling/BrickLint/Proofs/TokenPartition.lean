import BrickLint.Proofs.HeaderTokens
import BrickLint.Proofs.LineMap

/-!
# Partition of a line into tokens

Every line falls into blanks and tokens, and each token is as long as it can be. This division of a
line is unique, so everything about the tokens of a line can be read off it: the tokens come in the
order of their columns, they cover what is not blank and nothing else, and a blank between two texts
separates their tokens.
-/

namespace BrickLint

open Text

/-- The characters of a token of some kind, which none of the characters behind it could belong to
as well. -/
inductive IsLexeme : TokenKind → List Char → List Char → Prop
  /-- An identifier ends where no identifier character follows. -/
  | ident {c : Char} {chars behind : List Char} (hstart : isIdentStart c = true)
      (hchars : ∀ d ∈ chars, isIdentChar d = true)
      (hbehind : behind.head?.any isIdentChar = false) : IsLexeme .ident (c :: chars) behind
  /-- A number starts with a digit and ends where neither a word character nor a point follows. -/
  | number {c : Char} {chars behind : List Char} (hdigit : isDigitChar c = true)
      (hstart : isIdentStart c = false) (hblank : isBlank c = false)
      (hchars : ∀ d ∈ chars, isNumberChar d = true)
      (hbehind : behind.head?.any isNumberChar = false) : IsLexeme .number (c :: chars) behind
  /-- The arrow is one token. -/
  | arrow {behind : List Char} : IsLexeme .punct ['-', '>'] behind
  /-- Any other character is a token by itself, unless it starts an arrow. -/
  | mark {c : Char} {behind : List Char} (hblank : isBlank c = false)
      (hstart : isIdentStart c = false) (hdigit : isDigitChar c = false)
      (harrow : ¬(c = '-' ∧ behind.head? = some '>')) : IsLexeme .punct [c] behind

/-- An identifier character starts an identifier or a number. -/
theorem isIdentStart_or_isDigitChar {c : Char} (hc : isIdentChar c = true) :
    isIdentStart c = true ∨ isDigitChar c = true := by
  rw [isIdentStart_iff]
  by_cases hdigit : 48 ≤ c.toNat ∧ c.toNat ≤ 57
  · exact .inr (by simp [isDigitChar, digitValue?, digitZeros, hdigit])
  · have hcode := (isIdentChar_iff c).mp hc
    exact .inl (by omega)

namespace IsLexeme

variable {kind : TokenKind} {chars behind : List Char}

/-- A token starts with a character that is not blank. -/
theorem exists_cons (h : IsLexeme kind chars behind) :
    ∃ c more, chars = c :: more ∧ isBlank c = false := by
  cases h with
  | ident hstart => exact ⟨_, _, rfl, isBlank_of_isIdentChar (isIdentChar_of_isIdentStart hstart)⟩
  | number _ _ hblank => exact ⟨_, _, rfl, hblank⟩
  | arrow => exact ⟨_, _, rfl, by decide⟩
  | mark hblank => exact ⟨_, _, rfl, hblank⟩

/-- No character of a token is blank. -/
theorem isBlank_eq_false (h : IsLexeme kind chars behind) {d : Char} (hd : d ∈ chars) :
    isBlank d = false := by
  cases h with
  | ident hstart hchars =>
    rcases List.mem_cons.mp hd with rfl | hd
    · exact isBlank_of_isIdentChar (isIdentChar_of_isIdentStart hstart)
    · exact isBlank_of_isIdentChar (hchars d hd)
  | number _ _ hblank hchars =>
    rcases List.mem_cons.mp hd with rfl | hd
    · exact hblank
    · by_contra hblank
      have hword := isWordChar_of_isBlank (by simpa using hblank)
      rcases Bool.or_eq_true_iff.mp (hchars d hd) with hd | hpoint
      · exact absurd hd (by simp [hword])
      · obtain rfl : d = '.' := by simpa using hpoint
        exact absurd hblank (by decide)
  | arrow =>
    obtain rfl | rfl : d = '-' ∨ d = '>' := by simpa using hd
    · decide
    · decide
  | mark hblank =>
    obtain rfl := List.mem_singleton.mp hd
    exact hblank

/-- Behind a token that does not end in an identifier character anything may follow, and behind the
others no identifier character does. -/
theorem head?_behind (h : IsLexeme kind chars behind)
    (hlast : chars.getLast?.any isIdentChar = true) : behind.head?.any isIdentChar = false := by
  cases h with
  | ident _ _ hbehind => exact hbehind
  | number _ _ _ _ hbehind =>
    cases hhead : behind.head? with
    | none => rfl
    | some d =>
      rw [hhead, Option.any_some, isNumberChar, Bool.or_eq_false_iff] at hbehind
      by_contra hident
      have hword := isWordChar_of_isIdentChar (by simpa using hident : isIdentChar d = true)
      exact absurd hword (by simp [hbehind.1])
  | arrow => exact absurd hlast (by decide)
  | mark _ hstart hdigit =>
    rcases isIdentStart_or_isDigitChar (by simpa using hlast) with hc | hc
    · exact absurd hc (by simp [hstart])
    · exact absurd hc (by simp [hdigit])

/-- The longest token is the one that is read. -/
theorem lexeme_eq {c : Char} {more : List Char} (h : IsLexeme kind (c :: more) behind) :
    lexeme c (more ++ behind) = (kind, c :: more) := by
  cases h with
  | ident hstart hchars hbehind =>
    simp [lexeme, hstart, takeWhile_append_of_stop hchars hbehind]
  | number hdigit hstart _ hchars hbehind =>
    simp [lexeme, hstart, hdigit, takeWhile_append_of_stop hchars hbehind]
  | arrow =>
    have hstart : isIdentStart '-' = false := by decide
    have hdigit : isDigitChar '-' = false := by decide
    simp [lexeme, hstart, hdigit]
  | mark _ hstart hdigit harrow =>
    simp only [lexeme, hstart, hdigit, Bool.false_eq_true, if_false, List.nil_append, if_neg harrow]

/-- The tokens of a text that starts with a longest token. -/
theorem tokensFrom_append (h : IsLexeme kind chars behind) (column : Nat) :
    tokensFrom 0 column (chars ++ behind) = ⟨kind, String.ofList chars, column⟩ ::
      tokensFrom 0 (column + chars.length) behind := by
  obtain ⟨c, more, rfl, hblank⟩ := h.exists_cons
  have hcolumn : column + (more.length + 1) = column + 1 + more.length := by omega
  rw [List.cons_append]
  simp only [tokensFrom, hblank, h.lexeme_eq, Bool.false_eq_true, if_false]
  rw [List.length_cons, Nat.add_sub_cancel, tokensFrom_skip, hcolumn]

end IsLexeme

/-- What is read from a character that is not blank is a longest token. -/
theorem isLexeme_lexeme {c : Char} (hblank : isBlank c = false) (cs : List Char) :
    ∃ behind, c :: cs = (lexeme c cs).2 ++ behind ∧
      IsLexeme (lexeme c cs).1 (lexeme c cs).2 behind := by
  have hall : ∀ {p : Char → Bool}, ∀ d ∈ cs.takeWhile p, p d = true :=
    fun d hd => List.all_eq_true.mp List.all_takeWhile d hd
  by_cases hstart : isIdentStart c = true
  · rw [lexeme, if_pos hstart]
    exact ⟨cs.dropWhile isIdentChar, by simp, .ident hstart hall (head?_dropWhile cs)⟩
  rw [Bool.not_eq_true] at hstart
  by_cases hdigit : isDigitChar c = true
  · rw [lexeme, if_neg (by simp [hstart]), if_pos hdigit]
    exact ⟨cs.dropWhile isNumberChar, by simp,
      .number hdigit hstart hblank hall (head?_dropWhile cs)⟩
  rw [Bool.not_eq_true] at hdigit
  rw [lexeme, if_neg (by simp [hstart]), if_neg (by simp [hdigit])]
  by_cases harrow : c = '-' ∧ cs.head? = some '>'
  · rw [if_pos harrow]
    obtain ⟨rest, rfl⟩ := List.head?_eq_some_iff.mp harrow.2
    exact ⟨rest, by simp [harrow.1], .arrow⟩
  · rw [if_neg harrow]
    exact ⟨cs, rfl, .mark hblank hstart hdigit harrow⟩

/-- A text that starts at a column falls into blanks and longest tokens. -/
inductive IsDivided : Nat → List Char → List Token → Prop
  /-- The end of the line. -/
  | nil (column : Nat) : IsDivided column [] []
  /-- A blank comes first. -/
  | blank {column : Nat} {c : Char} {cs : List Char} {tokens : List Token}
      (hblank : isBlank c = true) (hrest : IsDivided (column + 1) cs tokens) :
      IsDivided column (c :: cs) tokens
  /-- A token comes first. -/
  | token {column : Nat} {kind : TokenKind} {chars behind : List Char} {tokens : List Token}
      (hlexeme : IsLexeme kind chars behind)
      (hrest : IsDivided (column + chars.length) behind tokens) :
      IsDivided column (chars ++ behind) (⟨kind, String.ofList chars, column⟩ :: tokens)

/-- The tokens of a text divide it. -/
theorem isDivided_tokensFrom (column : Nat) (cs : List Char) :
    IsDivided column cs (tokensFrom 0 column cs) := by
  induction hlength : cs.length using Nat.strongRecOn generalizing column cs with
  | ind length ih =>
    subst hlength
    cases cs with
    | nil => exact .nil column
    | cons c cs =>
      by_cases hblank : isBlank c = true
      · have hrest := ih cs.length (Nat.lt_succ_self _) (column + 1) cs rfl
        simpa [tokensFrom, hblank] using IsDivided.blank hblank hrest
      · obtain ⟨behind, hsplit, hlexeme⟩ := isLexeme_lexeme (by simpa using hblank) cs
        obtain ⟨_, _, hchars, _⟩ := hlexeme.exists_cons
        have hshorter : behind.length < (c :: cs).length := by
          rw [hsplit, hchars, List.cons_append, List.length_cons, List.length_append]
          omega
        rw [hsplit, hlexeme.tokensFrom_append]
        exact .token hlexeme (ih _ hshorter _ _ rfl)

/-- There is one way only to divide a text. -/
theorem IsDivided.eq_tokensFrom {column : Nat} {cs : List Char} {tokens : List Token}
    (h : IsDivided column cs tokens) : tokens = tokensFrom 0 column cs := by
  induction h with
  | nil => rfl
  | blank hblank _ ih => simp [tokensFrom, hblank, ih]
  | token hlexeme _ ih => rw [hlexeme.tokensFrom_append, ih]

/-- The column just behind a token. -/
def Token.stop (t : Token) : Nat :=
  t.column + t.text.length

/-- A token stands between two parts of a line, and neither part has a character that could belong
to it as well. -/
structure Token.IsMaximal (before : List Char) (t : Token) (behind : List Char) : Prop where
  /-- The token stands behind the first part. -/
  column_eq : t.column = before.length
  /-- It holds at least one character. -/
  nonempty : t.text ≠ ""
  /-- None of its characters is blank. -/
  visible : ∀ c ∈ t.text.toList, isBlank c = false
  /-- An identifier is a longest run of ASCII letters, digits and underscores. -/
  ident : t.kind = .ident → isIdentifier t.text = true ∧
    before.getLast?.any isIdentChar = false ∧ behind.head?.any isIdentChar = false
  /-- A number starts with a digit and ends where neither a word character nor a point follows. -/
  number : t.kind = .number → t.text.toList.head?.any isDigitChar = true ∧
    (∀ c ∈ t.text.toList.tail, isNumberChar c = true) ∧ behind.head?.any isNumberChar = false
  /-- Any other token is one character or the arrow, which is never cut in two. -/
  punct : t.kind = .punct → (t.text.length = 1 ∨ t.text = "->") ∧
    (t.text = "-" → behind.head? ≠ some '>')

/-- A longest token is maximal where no identifier runs into it from the left. -/
theorem IsLexeme.isMaximal {kind : TokenKind} {before chars behind : List Char}
    (h : IsLexeme kind chars behind)
    (hbefore : chars.head?.any isIdentChar = true → before.getLast?.any isIdentChar = false) :
    Token.IsMaximal before ⟨kind, String.ofList chars, before.length⟩ behind where
  column_eq := rfl
  nonempty hempty := by
    obtain ⟨c, more, rfl, _⟩ := h.exists_cons
    have hchars := congrArg String.toList hempty
    rw [String.toList_ofList] at hchars
    cases hchars
  visible d hd := by
    rw [String.toList_ofList] at hd
    exact h.isBlank_eq_false hd
  ident hkind := by
    cases h with
    | @ident c more _ hstart hchars hbehind =>
      refine ⟨(isIdentifier_iff _).mpr ⟨c, more, String.toList_ofList, hstart, hchars⟩,
        hbefore ?_, hbehind⟩
      simpa using isIdentChar_of_isIdentStart hstart
    | _ => cases hkind
  number hkind := by
    cases h with
    | number hdigit _ _ hchars hbehind =>
      rw [String.toList_ofList]
      exact ⟨by simpa using hdigit, hchars, hbehind⟩
    | _ => cases hkind
  punct hkind := by
    cases h with
    | arrow =>
      have harrow : String.ofList ['-', '>'] ≠ "-" := by decide
      exact ⟨.inr rfl, fun heq => absurd heq harrow⟩
    | @mark c _ _ _ _ harrow =>
      refine ⟨.inl (by simp), fun heq hhead => harrow ⟨?_, hhead⟩⟩
      have hchars := congrArg String.toList heq
      rw [String.toList_ofList] at hchars
      exact (List.cons.inj hchars).1
    | _ => cases hkind

namespace IsDivided

variable {column : Nat} {cs : List Char} {tokens : List Token}

/-- The tokens of a text stand behind the column at which it starts, one behind the other. -/
theorem ordered (h : IsDivided column cs tokens) :
    (∀ t ∈ tokens, column ≤ t.column) ∧
      tokens.Pairwise fun a b => a.column < b.column ∧ a.stop ≤ b.column := by
  induction h with
  | nil => simp
  | blank _ _ ih => exact ⟨fun t ht => (Nat.le_succ _).trans (ih.1 t ht), ih.2⟩
  | @token column kind chars _ _ hlexeme _ ih =>
    obtain ⟨c, more, rfl, _⟩ := hlexeme.exists_cons
    have hlater := ih.1
    rw [List.length_cons] at hlater
    refine ⟨?_, List.pairwise_cons.mpr ⟨fun t ht => ?_, ih.2⟩⟩
    · intro t ht
      rcases List.mem_cons.mp ht with rfl | ht
      · exact Nat.le_refl _
      · have := hlater t ht
        omega
    · have hcolumn : column + (more.length + 1) ≤ t.column := hlater t ht
      refine ⟨show column < t.column by omega, ?_⟩
      rwa [Token.stop, String.length_ofList, List.length_cons]

/-- The tokens of the rest of a line are maximal in the line, when no identifier runs into the rest
from the left. -/
theorem isMaximal (h : IsDivided column cs tokens) {front : List Char}
    (hcolumn : column = front.length)
    (hfront : cs.head?.any isIdentChar = true → front.getLast?.any isIdentChar = false) :
    ∀ t ∈ tokens, ∃ before behind, front ++ cs = before ++ (t.text.toList ++ behind) ∧
      t.IsMaximal before behind := by
  induction h generalizing front with
  | nil => simp
  | @blank _ c cs _ hblank _ ih =>
    have hnext : cs.head?.any isIdentChar = true →
        (front ++ [c]).getLast?.any isIdentChar = false := by
      intro _
      by_contra hident
      have hc := isBlank_of_isIdentChar (by simpa using hident : isIdentChar c = true)
      exact absurd hblank (by simp [hc])
    simpa using ih (by simp [hcolumn]) hnext
  | @token _ kind chars behind _ hlexeme _ ih =>
    subst hcolumn
    obtain ⟨c, more, hchars, _⟩ := hlexeme.exists_cons
    have hlast : (front ++ chars).getLast? = chars.getLast? := by
      rw [List.getLast?_append_of_ne_nil _ (by simp [hchars])]
    have hnext : behind.head?.any isIdentChar = true →
        (front ++ chars).getLast?.any isIdentChar = false := by
      rw [hlast]
      intro hhead
      by_contra hident
      have hstop := hlexeme.head?_behind (by simpa using hident)
      exact absurd hhead (by simp [hstop])
    intro t ht
    rcases List.mem_cons.mp ht with rfl | ht
    · refine ⟨front, behind, by rw [String.toList_ofList], hlexeme.isMaximal fun hhead => hfront ?_⟩
      rw [hchars, List.head?_cons] at hhead
      simpa [hchars] using hhead
    · rw [← List.append_assoc]
      exact ih (by simp) hnext t ht

/-- Every character of a text is blank or stands in a token. -/
theorem covers (h : IsDivided column cs tokens) {k : Nat} {c : Char} (hc : cs[k]? = some c)
    (hblank : isBlank c = false) : ∃ t ∈ tokens, t.column ≤ column + k ∧ column + k < t.stop := by
  induction h generalizing k with
  | nil => simp at hc
  | blank hfirst _ ih =>
    cases k with
    | zero =>
      obtain rfl := Option.some.inj hc
      exact absurd hfirst (by simp [hblank])
    | succ k =>
      obtain ⟨t, ht, hleft, hright⟩ := ih hc
      exact ⟨t, ht, by omega, by omega⟩
  | @token column _ chars behind _ _ _ ih =>
    by_cases hk : k < chars.length
    · refine ⟨_, List.mem_cons_self, Nat.le_add_right _ _, ?_⟩
      rw [Token.stop, String.length_ofList]
      exact Nat.add_lt_add_left hk column
    · rw [List.getElem?_append_right (by omega)] at hc
      obtain ⟨t, ht, hleft, hright⟩ := ih hc
      exact ⟨t, List.mem_cons_of_mem _ ht, by omega, by omega⟩

end IsDivided

/-- A maximal token covers no blank. -/
theorem Token.IsMaximal.isBlank_eq_false {before behind : List Char} {t : Token}
    (h : t.IsMaximal before behind) {k : Nat} {c : Char}
    (hc : (before ++ (t.text.toList ++ behind))[k]? = some c) (hleft : t.column ≤ k)
    (hright : k < t.stop) : isBlank c = false := by
  rw [Token.stop, h.column_eq, ← String.length_toList] at hright
  rw [h.column_eq] at hleft
  rw [List.getElem?_append_right hleft, List.getElem?_append_left (by omega)] at hc
  exact h.visible c (List.mem_of_getElem? hc)

/-- A token that many columns further right. -/
def Token.shift (t : Token) (columns : Nat) : Token :=
  { t with column := t.column + columns }

/-- The tokens of a text that starts further right stand further right. -/
theorem tokensFrom_add (skip column columns : Nat) (cs : List Char) :
    tokensFrom skip (column + columns) cs =
      (tokensFrom skip column cs).map (·.shift columns) := by
  have hcolumn : ∀ column, column + columns + 1 = column + 1 + columns := fun column => by omega
  induction cs generalizing skip column with
  | nil => rfl
  | cons c cs ih =>
    cases skip with
    | succ remaining => rw [tokensFrom, tokensFrom, hcolumn, ih]
    | zero =>
      by_cases hblank : isBlank c = true
      · simp only [tokensFrom, hblank, if_true, hcolumn, ih]
      · simp only [tokensFrom, hblank, Bool.false_eq_true, if_false, hcolumn, ih, List.map_cons,
          Token.shift]

/-- A blank belongs to no longer token. -/
theorem isSeparator_of_isBlank {c : Char} (h : isBlank c = true) : isSeparator c = true := by
  have hpoint : c ≠ '.' := by
    rintro rfl
    exact absurd h (by decide)
  have hangle : c ≠ '>' := by
    rintro rfl
    exact absurd h (by decide)
  simp [isSeparator, isNumberChar, isWordChar_of_isBlank h, hpoint, hangle]

/-- The tokens of two texts with a blank between them. -/
theorem tokenize_append_blank {blank : Char} (hblank : isBlank blank = true) (a b : List Char) :
    tokenize (a ++ blank :: b) = tokenize a ++ (tokenize b).map (·.shift (a.length + 1)) := by
  have hshift := tokensFrom_add 0 0 (a.length + 1) b
  rw [Nat.zero_add] at hshift
  rw [tokenize, tokensFrom_append_separator (isSeparator_of_isBlank hblank) (Nat.zero_le _),
    Nat.zero_add, tokensFrom, if_pos hblank, hshift]
  rfl

/-- The tokens of a line are the only way to divide it into blanks and longest tokens. They come in
the order of their columns and do not overlap; each of them is the part of the line at its column
and could not be longer; and a character is not blank exactly if a token covers it. No token reaches
over a blank: the tokens of two texts with a blank between them are those of the first text and
those of the second. -/
theorem tokenize_partitions (cs : List Char) :
    (∀ tokens, IsDivided 0 cs tokens ↔ tokens = tokenize cs) ∧
      ((tokenize cs).Pairwise fun a b => a.column < b.column ∧ a.stop ≤ b.column) ∧
      (∀ t ∈ tokenize cs, ∃ before behind, cs = before ++ (t.text.toList ++ behind) ∧
        t.IsMaximal before behind) ∧
      (∀ k c, cs[k]? = some c →
        (isBlank c = false ↔ ∃ t ∈ tokenize cs, t.column ≤ k ∧ k < t.stop)) ∧
      ∀ (a b : List Char) (blank : Char), isBlank blank = true →
        tokenize (a ++ blank :: b) =
          tokenize a ++ (tokenize b).map (·.shift (a.length + 1)) := by
  have hdivided := isDivided_tokensFrom 0 cs
  have hmaximal : ∀ t ∈ tokenize cs, ∃ before behind,
      cs = before ++ (t.text.toList ++ behind) ∧ t.IsMaximal before behind :=
    @IsDivided.isMaximal _ _ _ hdivided [] rfl fun _ => rfl
  refine ⟨fun tokens => ⟨IsDivided.eq_tokensFrom, fun h => h ▸ hdivided⟩, hdivided.ordered.2,
    hmaximal, fun k c hc => ⟨fun hblank => ?_, ?_⟩,
    fun a b _ hblank => tokenize_append_blank hblank a b⟩
  · obtain ⟨t, ht, hleft, hright⟩ := hdivided.covers hc hblank
    rw [Nat.zero_add] at hleft hright
    exact ⟨t, ht, hleft, hright⟩
  · rintro ⟨t, ht, hleft, hright⟩
    obtain ⟨before, behind, hsplit, hmax⟩ := hmaximal t ht
    exact hmax.isBlank_eq_false (hsplit ▸ hc) hleft hright

/-- An arrow behind two hyphens, a number that runs into letters, and a letter that is not ASCII. -/
theorem tokenize_partitions_sample :
    let cs := "a-->b 1x.y é_".toList
    cs[5]? = some ' ' ∧ isBlank ' ' = true ∧
      tokenize cs = tokenize "a-->b".toList ++ (tokenize "1x.y é_".toList).map (·.shift 6) ∧
      (tokenize cs).map Token.text = ["a", "-", "->", "b", "1x.y", "é", "_"] := by
  obtain ⟨_, _, _, _, hblank⟩ := tokenize_partitions "a-->b 1x.y é_".toList
  refine ⟨rfl, by decide, hblank "a-->b".toList "1x.y é_".toList ' ' (by decide), ?_⟩
  decide +kernel

end BrickLint
