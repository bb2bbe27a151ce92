import BrickLint.Token

/-!
# Identifiers and tokens

Facts about the characters of identifiers and about the tokens of a line. The tokens of a line that
starts with a blank, an identifier or a punctuation mark are determined by what comes first and by
the tokens of the rest, a mark that belongs to no longer token separates them, and an identifier
token is an identifier that stands in the line at its column.
-/

namespace BrickLint

open Text

namespace Text

/-- The code points of ASCII letters. -/
theorem isAlpha_iff (c : Char) :
    c.isAlpha = true ↔ (65 ≤ c.toNat ∧ c.toNat ≤ 90) ∨ (97 ≤ c.toNat ∧ c.toNat ≤ 122) := by
  change (decide (65 ≤ c.val ∧ c.val ≤ 90) ||
    decide (97 ≤ c.val) && decide (c.val ≤ 122)) = true ↔ _
  simp only [Bool.or_eq_true, Bool.and_eq_true, decide_eq_true_eq, UInt32.le_iff_toNat_le]
  rfl

/-- The code points of ASCII digits. -/
theorem isDigit_iff (c : Char) : c.isDigit = true ↔ 48 ≤ c.toNat ∧ c.toNat ≤ 57 := by
  change (decide (48 ≤ c.val) && decide (c.val ≤ 57)) = true ↔ _
  simp only [Bool.and_eq_true, decide_eq_true_eq, UInt32.le_iff_toNat_le]
  rfl

/-- The code point of the underscore. -/
theorem eq_underscore_iff (c : Char) : c = '_' ↔ c.toNat = 95 :=
  ⟨fun h => h ▸ rfl, fun h => Char.toNat_inj.mp h⟩

/-- The code points with which an identifier continues. -/
theorem isIdentChar_iff (c : Char) :
    isIdentChar c = true ↔ (48 ≤ c.toNat ∧ c.toNat ≤ 57) ∨ (65 ≤ c.toNat ∧ c.toNat ≤ 90) ∨
      (97 ≤ c.toNat ∧ c.toNat ≤ 122) ∨ c.toNat = 95 := by
  have hparts : isIdentChar c = (c.isAlpha || c.isDigit || c == '_') := rfl
  rw [hparts, Bool.or_eq_true, Bool.or_eq_true, beq_iff_eq, isAlpha_iff, isDigit_iff,
    eq_underscore_iff]
  omega

/-- The code points with which an identifier starts. -/
theorem isIdentStart_iff (c : Char) :
    isIdentStart c = true ↔ (65 ≤ c.toNat ∧ c.toNat ≤ 90) ∨ (97 ≤ c.toNat ∧ c.toNat ≤ 122) ∨
      c.toNat = 95 := by
  rw [isIdentStart, Bool.or_eq_true, beq_iff_eq, isAlpha_iff, eq_underscore_iff, or_assoc]

/-- What starts an identifier may also continue one. -/
theorem isIdentChar_of_isIdentStart {c : Char} (h : isIdentStart c = true) :
    isIdentChar c = true := by
  have hcode := (isIdentStart_iff c).mp h
  apply (isIdentChar_iff c).mpr
  omega

/-- No character of an identifier is blank. -/
theorem isBlank_of_isIdentChar {c : Char} (h : isIdentChar c = true) : isBlank c = false := by
  have hcode := (isIdentChar_iff c).mp h
  simp only [isBlank, inIntervals, blankIntervals, List.any_cons, List.any_nil, Bool.or_false,
    Bool.or_eq_false_iff, Bool.and_eq_false_iff, decide_eq_false_iff_not, Nat.not_le]
  omega

/-- The characters of an identifier are word characters. -/
theorem isWordChar_of_isIdentChar {c : Char} (h : isIdentChar c = true) :
    isWordChar c = true := by
  have hcode := (isIdentChar_iff c).mp h
  have hsmall : c.toNat < 128 := by omega
  simpa [isWordChar, hsmall, isIdentChar] using h

/-- An ASCII letter or underscore, followed by letters, digits and underscores. -/
def isIdentifier (name : String) : Bool :=
  name.toList.head?.any isIdentStart && name.toList.all isIdentChar

/-- An identifier has a first character, and all its characters are identifier characters. -/
theorem isIdentifier_iff (name : String) :
    isIdentifier name = true ↔ ∃ c cs, name.toList = c :: cs ∧ isIdentStart c = true ∧
      ∀ d ∈ cs, isIdentChar d = true := by
  cases hname : name.toList with
  | nil => simp [isIdentifier, hname]
  | cons c cs =>
    simp only [isIdentifier, hname, List.head?_cons, Option.any_some, List.all_cons,
      Bool.and_eq_true, List.all_eq_true, List.cons.injEq]
    constructor
    · rintro ⟨hstart, _, hrest⟩
      exact ⟨c, cs, ⟨rfl, rfl⟩, hstart, hrest⟩
    · rintro ⟨_, _, ⟨rfl, rfl⟩, hstart, hrest⟩
      exact ⟨hstart, isIdentChar_of_isIdentStart hstart, hrest⟩

/-- Every character of an identifier is an identifier character. -/
theorem isIdentChar_of_mem {name : String} (hname : isIdentifier name = true) {c : Char}
    (hc : c ∈ name.toList) : isIdentChar c = true := by
  obtain ⟨first, rest, hchars, hfirst, hrest⟩ := (isIdentifier_iff name).mp hname
  rw [hchars] at hc
  rcases List.mem_cons.mp hc with rfl | hc
  · exact isIdentChar_of_isIdentStart hfirst
  · exact hrest c hc

/-- An identifier is not empty. -/
theorem length_pos_of_isIdentifier {name : String} (hname : isIdentifier name = true) :
    0 < name.length := by
  obtain ⟨c, cs, hchars, _⟩ := (isIdentifier_iff name).mp hname
  rw [← String.length_toList, hchars]
  simp

/-- A run of elements with a property ends where the property fails. -/
theorem takeWhile_append_of_stop {α : Type} {p : α → Bool} {l rest : List α}
    (hl : ∀ a ∈ l, p a = true) (hrest : rest.head?.any p = false) :
    (l ++ rest).takeWhile p = l := by
  rw [List.takeWhile_append_of_pos hl]
  cases rest with
  | nil => simp
  | cons a rest =>
    have hstop : p a = false := by simpa using hrest
    simp [hstop]

/-- The element at the start of an end of a list. -/
theorem getElem?_of_drop_eq {α : Type} {l rest : List α} {n : Nat} {a : α}
    (h : l.drop n = a :: rest) : l[n]? = some a := by
  have hfirst := congrArg (·[0]?) h
  simpa [List.getElem?_drop] using hfirst

/-- An end of a list without its first element. -/
theorem drop_add_one_of_drop_eq {α : Type} {l rest : List α} {n : Nat} {a : α}
    (h : l.drop n = a :: rest) : l.drop (n + 1) = rest := by
  rw [← List.tail_drop, h, List.tail_cons]

end Text

/-- The characters of a token that has been produced are passed over. -/
theorem tokensFrom_skip (passed rest : List Char) (column : Nat) :
    tokensFrom passed.length column (passed ++ rest) =
      tokensFrom 0 (column + passed.length) rest := by
  induction passed generalizing column with
  | nil => rfl
  | cons c passed ih =>
    have hcolumn : column + (passed.length + 1) = column + 1 + passed.length := by omega
    simp only [List.cons_append, List.length_cons, tokensFrom, ih, hcolumn]

/-- Blanks belong to no token. -/
theorem tokensFrom_blanks (blanks rest : List Char) (hblanks : ∀ c ∈ blanks, isBlank c = true)
    (column : Nat) :
    tokensFrom 0 column (blanks ++ rest) = tokensFrom 0 (column + blanks.length) rest := by
  induction blanks generalizing column with
  | nil => rfl
  | cons c blanks ih =>
    have hcolumn : column + (blanks.length + 1) = column + 1 + blanks.length := by omega
    have hblank := hblanks c List.mem_cons_self
    simp only [List.cons_append, tokensFrom, hblank, if_true, List.length_cons, hcolumn]
    exact ih (fun d hd => hblanks d (List.mem_cons_of_mem _ hd)) (column + 1)

/-- A space belongs to no token. -/
theorem tokensFrom_space (rest : List Char) (column : Nat) :
    tokensFrom 0 column (' ' :: rest) = tokensFrom 0 (column + 1) rest := by
  have hblank : isBlank ' ' = true := by decide
  simp only [tokensFrom, hblank, if_true]

/-- An identifier that nothing continues is a token. -/
theorem tokensFrom_identifier {name : String} (hname : isIdentifier name = true)
    {rest : List Char} (hrest : rest.head?.any isIdentChar = false) (column : Nat) :
    tokensFrom 0 column (name.toList ++ rest) =
      ⟨.ident, name, column⟩ :: tokensFrom 0 (column + name.length) rest := by
  obtain ⟨c, cs, hchars, hstart, hcs⟩ := (isIdentifier_iff name).mp hname
  have hblank := isBlank_of_isIdentChar (isIdentChar_of_isIdentStart hstart)
  have hlexeme : lexeme c (cs ++ rest) = (.ident, name.toList) := by
    simp [lexeme, hstart, takeWhile_append_of_stop hcs hrest, hchars]
  have hlength : name.length = cs.length + 1 := by rw [← String.length_toList, hchars]; rfl
  have hcolumn : column + (cs.length + 1) = column + 1 + cs.length := by omega
  rw [hchars, List.cons_append]
  simp only [tokensFrom, hblank, hlexeme, String.ofList_toList, Bool.false_eq_true, if_false]
  rw [hchars, List.length_cons, Nat.add_sub_cancel, tokensFrom_skip, hlength, hcolumn]

/-- A mark that is neither a blank nor part of a longer token is a token. -/
theorem tokensFrom_mark {c : Char} (hblank : isBlank c = false) (hstart : isIdentStart c = false)
    (hdigit : isDigitChar c = false) (harrow : c ≠ '-') (rest : List Char) (column : Nat) :
    tokensFrom 0 column (c :: rest) =
      ⟨.punct, String.singleton c, column⟩ :: tokensFrom 0 (column + 1) rest := by
  simp [tokensFrom, hblank, lexeme, hstart, hdigit, harrow]

/-- A digit that nothing continues is a token. -/
theorem tokensFrom_digit {c : Char} (hblank : isBlank c = false) (hstart : isIdentStart c = false)
    (hdigit : isDigitChar c = true) {rest : List Char}
    (hrest : rest.head?.any isNumberChar = false) (column : Nat) :
    tokensFrom 0 column (c :: rest) =
      ⟨.number, String.singleton c, column⟩ :: tokensFrom 0 (column + 1) rest := by
  have hrun := takeWhile_append_of_stop (l := []) (p := isNumberChar) (by simp) hrest
  rw [List.nil_append] at hrun
  simp [tokensFrom, hblank, lexeme, hstart, hdigit, hrun]

/-- A start of an identifier and the identifier characters behind it are an identifier. -/
theorem isIdentifier_takeWhile {c : Char} (hc : isIdentStart c = true) (rest : List Char) :
    isIdentifier (String.ofList (c :: rest.takeWhile isIdentChar)) = true := by
  apply (isIdentifier_iff _).mpr
  refine ⟨c, rest.takeWhile isIdentChar, String.toList_ofList, hc, fun d hd => ?_⟩
  exact List.all_eq_true.mp List.all_takeWhile d hd

/-- A token that is produced from some column on stands at its own column, and an identifier token
is an identifier. -/
theorem prefix_of_mem_tokensFrom {line cs : List Char} {skip column : Nat}
    (hline : line.drop column = cs) {token : Token} (h : token ∈ tokensFrom skip column cs)
    (hkind : token.kind = .ident) :
    isIdentifier token.text = true ∧ token.text.toList <+: line.drop token.column := by
  induction cs generalizing skip column with
  | nil => simp [tokensFrom] at h
  | cons c cs ih =>
    have hnext := drop_add_one_of_drop_eq hline
    cases skip with
    | succ remaining => exact ih hnext h
    | zero =>
      by_cases hblank : isBlank c = true
      · exact ih hnext (by simpa [tokensFrom, hblank] using h)
      · simp only [tokensFrom, hblank, Bool.false_eq_true, if_false] at h
        rcases List.mem_cons.mp h with rfl | hlater
        · by_cases hstart : isIdentStart c = true
          · simp only [lexeme, hstart, if_true, hline, String.toList_ofList]
            refine ⟨isIdentifier_takeWhile hstart cs, ?_⟩
            exact List.cons_prefix_cons.mpr ⟨rfl, List.takeWhile_prefix _⟩
          · -- Only an identifier starts with a letter or an underscore.
            exfalso
            dsimp only [lexeme] at hkind
            rw [if_neg hstart] at hkind
            split at hkind
            · simp at hkind
            split at hkind <;> simp at hkind
        · exact ih hnext hlater

/-- An identifier token is an identifier. -/
theorem isIdentifier_of_mem_tokensFrom {skip column : Nat} {cs : List Char} {token : Token}
    (h : token ∈ tokensFrom skip column cs) (hkind : token.kind = .ident) :
    isIdentifier token.text = true := by
  have hline : (List.replicate column ' ' ++ cs).drop column = cs :=
    List.drop_left' List.length_replicate
  exact (prefix_of_mem_tokensFrom hline h hkind).1

/-- An identifier token of a line is an identifier that stands in the line at its column. -/
theorem prefix_of_mem_tokenize {line : List Char} {token : Token} (h : token ∈ tokenize line)
    (hkind : token.kind = .ident) :
    isIdentifier token.text = true ∧ token.text.toList <+: line.drop token.column :=
  prefix_of_mem_tokensFrom rfl h hkind

/-- A character that belongs to no longer token: neither an identifier nor a number goes on with it,
and it does not end an arrow. -/
def Text.isSeparator (c : Char) : Bool :=
  !isNumberChar c && c != '>'

/-- A run of characters ends where the property fails. -/
theorem takeWhile_append_cons_of_neg {p : Char → Bool} {m : Char} (hm : p m = false)
    (pre tail : List Char) : (pre ++ m :: tail).takeWhile p = pre.takeWhile p := by
  rw [List.takeWhile_append]
  split
  case isTrue hall =>
    rw [List.takeWhile_cons_of_neg (by simp [hm]), List.append_nil]
    exact ((List.takeWhile_prefix p).eq_of_length hall).symm
  case isFalse => rfl

/-- A token ends before a separator. -/
theorem lexeme_append_separator {m : Char} (hm : isSeparator m = true) (c : Char)
    (pre tail : List Char) : lexeme c (pre ++ m :: tail) = lexeme c pre := by
  simp only [isSeparator, Bool.and_eq_true, Bool.not_eq_eq_eq_not, Bool.not_true, bne_iff_ne] at hm
  obtain ⟨hnumber, harrow⟩ := hm
  have hident : isIdentChar m = false := by
    cases hident : isIdentChar m with
    | false => rfl
    | true => simp [isNumberChar, isWordChar_of_isIdentChar hident] at hnumber
  have hhead : (pre ++ m :: tail).head? = some '>' ↔ pre.head? = some '>' := by
    cases pre with
    | nil => simp [harrow]
    | cons d pre => simp
  simp only [lexeme, takeWhile_append_cons_of_neg hident,
    takeWhile_append_cons_of_neg hnumber, hhead]

/-- A token is the start of the text from its first character on. -/
theorem lexeme_isPrefix (c : Char) (cs : List Char) : (lexeme c cs).2 <+: c :: cs := by
  unfold lexeme
  split
  · exact List.cons_prefix_cons.mpr ⟨rfl, List.takeWhile_prefix _⟩
  split
  · exact List.cons_prefix_cons.mpr ⟨rfl, List.takeWhile_prefix _⟩
  split
  case isTrue harrow =>
    obtain ⟨rest, rfl⟩ := List.head?_eq_some_iff.mp harrow.2
    exact ⟨rest, by rw [harrow.1]; rfl⟩
  case isFalse => exact ⟨cs, rfl⟩

/-- A token starts with the character that it is read from. -/
theorem head?_lexeme (c : Char) (cs : List Char) : (lexeme c cs).2.head? = some c := by
  unfold lexeme
  split
  · rfl
  split
  · rfl
  split
  case isTrue harrow => rw [harrow.1]; rfl
  case isFalse => rfl

/-- The tokens of a text are those before a separator and those from it on. -/
theorem tokensFrom_append_separator {m : Char} (hm : isSeparator m = true) {pre : List Char}
    {skip : Nat} (hskip : skip ≤ pre.length) (column : Nat) (tail : List Char) :
    tokensFrom skip column (pre ++ m :: tail) =
      tokensFrom skip column pre ++ tokensFrom 0 (column + pre.length) (m :: tail) := by
  induction pre generalizing skip column with
  | nil =>
    obtain rfl := Nat.le_zero.mp hskip
    rfl
  | cons c pre ih =>
    have hcolumn : column + (pre.length + 1) = column + 1 + pre.length := by omega
    rw [List.cons_append, List.length_cons, hcolumn]
    cases skip with
    | succ remaining =>
      exact ih (Nat.le_of_succ_le_succ hskip) (column + 1)
    | zero =>
      unfold tokensFrom
      dsimp only
      split
      · exact ih (Nat.zero_le _) (column + 1)
      · have hlength : (lexeme c pre).2.length ≤ pre.length + 1 := (lexeme_isPrefix c pre).length_le
        rw [lexeme_append_separator hm, List.cons_append, ih (by omega) (column + 1)]
        rfl

/-- The characters of a token stand in its text. -/
theorem mem_of_mem_tokensFrom {skip column : Nat} {cs : List Char} {token : Token}
    (h : token ∈ tokensFrom skip column cs) {c : Char} (hc : c ∈ token.text.toList) : c ∈ cs := by
  induction cs generalizing skip column with
  | nil => simp [tokensFrom] at h
  | cons d cs ih =>
    cases skip with
    | succ remaining => exact List.mem_cons_of_mem _ (ih h)
    | zero =>
      by_cases hblank : isBlank d = true
      · exact List.mem_cons_of_mem _ (ih (by simpa [tokensFrom, hblank] using h))
      · simp only [tokensFrom, hblank, Bool.false_eq_true, if_false] at h
        rcases List.mem_cons.mp h with rfl | hlater
        · have hwithin := (lexeme_isPrefix d cs).subset
          exact hwithin (by simpa using hc)
        · exact List.mem_cons_of_mem _ (ih hlater)

end BrickLint
