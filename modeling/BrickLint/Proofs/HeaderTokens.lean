import BrickLint.Proofs.Header
import Mathlib.Data.List.TakeWhile

/-!
# The tokens of a header

The header pattern works on the characters of a line. Here it is shown to depend on the tokens of
the line only: it recognises a line if and only if the line starts with modifiers, a type and a name
before a parenthesis, whatever blanks stand between them and in whatever order the types are tried.
-/

namespace BrickLint

open Text

/-- The tokens of an end of a line, which has `length` characters. -/
def tokensOfEnd (length : Nat) (cs : List Char) : List Token :=
  tokensFrom 0 (length - cs.length) cs

variable {length : Nat} {cs rest : List Char} {token : Token} {tokens : List Token}

/-- Blanks at the start of an end of a line hold no tokens. -/
theorem tokensOfEnd_stripStart (hcs : cs.length ≤ length) :
    tokensOfEnd length (stripStart cs) = tokensOfEnd length cs := by
  have hsplit : cs = cs.takeWhile isBlank ++ stripStart cs := List.takeWhile_append_dropWhile.symm
  have hlength := congrArg List.length hsplit
  rw [List.length_append] at hlength
  have hcolumn : length - (stripStart cs).length =
      length - cs.length + (cs.takeWhile isBlank).length := by omega
  rw [tokensOfEnd, tokensOfEnd, hcolumn, ← tokensFrom_blanks _ _
    fun c hc => List.all_eq_true.mp List.all_takeWhile c hc]
  exact congrArg _ hsplit.symm

/-- An end of a line that starts with an identifier. -/
theorem tokensOfEnd_identifier {name : String} (hname : isIdentifier name = true)
    (hrest : rest.head?.any isIdentChar = false) (hlength : (name.toList ++ rest).length ≤ length) :
    tokensOfEnd length (name.toList ++ rest) =
      ⟨.ident, name, length - (name.toList ++ rest).length⟩ :: tokensOfEnd length rest := by
  have hcolumn : length - (name.toList ++ rest).length + name.length = length - rest.length := by
    rw [List.length_append, String.length_toList] at hlength ⊢
    omega
  rw [tokensOfEnd, tokensFrom_identifier hname hrest, hcolumn, tokensOfEnd]

/-- A mark that is a token by itself. -/
def Text.isSingleMark (c : Char) : Bool :=
  !isBlank c && !isIdentStart c && !isDigitChar c && c != '-'

/-- An end of a line that starts with a mark. -/
theorem tokensOfEnd_mark {c : Char} (hc : isSingleMark c = true)
    (hlength : (c :: rest).length ≤ length) :
    tokensOfEnd length (c :: rest) =
      ⟨.punct, String.singleton c, length - (c :: rest).length⟩ :: tokensOfEnd length rest := by
  simp only [isSingleMark, Bool.and_eq_true, Bool.not_eq_eq_eq_not, Bool.not_true, bne_iff_ne] at hc
  obtain ⟨⟨⟨hblank, hstart⟩, hdigit⟩, harrow⟩ := hc
  have hcolumn : length - (c :: rest).length + 1 = length - rest.length := by
    rw [List.length_cons] at hlength ⊢
    omega
  rw [tokensOfEnd, tokensFrom_mark hblank hstart hdigit harrow, hcolumn, tokensOfEnd]

/-- What follows a run of characters with a property starts with none of them. -/
theorem head?_dropWhile {p : Char → Bool} (cs : List Char) :
    (cs.dropWhile p).head?.any p = false := by
  have hfirst := List.head?_dropWhile_not p cs
  cases hhead : (cs.dropWhile p).head? with
  | none => rfl
  | some c => simpa [hhead] using hfirst

/-- Without its first blanks a text starts with no blank. -/
theorem head?_stripStart (cs : List Char) : (stripStart cs).head?.any isBlank = false :=
  head?_dropWhile cs

/-- A text that starts with no blank has none to drop. -/
theorem stripStart_eq_self (hcs : cs.head?.any isBlank = false) : stripStart cs = cs := by
  cases cs with
  | nil => rfl
  | cons c cs => exact List.dropWhile_cons_of_neg (by simpa using hcs)

/-- The first token of an end of a line is read from its first character that is not blank. -/
theorem exists_lexeme_of_tokensOfEnd (hcs : cs.length ≤ length)
    (h : tokensOfEnd length cs = token :: tokens) :
    ∃ c more rest, stripStart cs = c :: more ∧ (lexeme c more).2 = token.text.toList ∧
      c :: more = token.text.toList ++ rest ∧ tokens = tokensOfEnd length rest := by
  have hle := (stripStart_suffix cs).length_le.trans hcs
  have hfirst := head?_stripStart cs
  rw [← tokensOfEnd_stripStart hcs] at h
  generalize stripStart cs = start at *
  cases start with
  | nil => simp [tokensOfEnd, tokensFrom] at h
  | cons c more =>
    have hblank : isBlank c = false := by simpa using hfirst
    simp only [tokensOfEnd, tokensFrom, hblank, Bool.false_eq_true, if_false, List.cons.injEq] at h
    obtain ⟨rfl, rfl⟩ := h
    obtain ⟨rest, hrest⟩ := lexeme_isPrefix c more
    obtain ⟨passed, hpassed⟩ := List.head?_eq_some_iff.mp (head?_lexeme c more)
    refine ⟨c, more, rest, rfl, by simp, by simp [hrest], ?_⟩
    have hmore : more = passed ++ rest := by
      rw [hpassed, List.cons_append] at hrest
      exact (List.cons.inj hrest).2.symm
    have hcolumn : length - (c :: more).length + 1 + passed.length = length - rest.length := by
      rw [hmore, List.length_cons, List.length_append] at hle ⊢
      omega
    have hskip := tokensFrom_skip passed rest (length - (c :: more).length + 1)
    rw [← hmore, hcolumn] at hskip
    rw [hpassed, List.length_cons, Nat.add_sub_cancel]
    exact hskip

/-- An identifier that is the first token stands at the start, and nothing continues it. -/
theorem identifier_of_tokensOfEnd (hcs : cs.length ≤ length)
    (h : tokensOfEnd length cs = token :: tokens) (htoken : isIdentifier token.text = true) :
    ∃ rest, stripStart cs = token.text.toList ++ rest ∧ rest.head?.any isIdentChar = false ∧
      tokens = tokensOfEnd length rest := by
  obtain ⟨c, more, rest, hstart, hlexeme, hsplit, htokens⟩ := exists_lexeme_of_tokensOfEnd hcs h
  obtain ⟨first, chars, hchars, hfirst, _⟩ := (isIdentifier_iff _).mp htoken
  have hc : isIdentStart c = true := by
    rw [hchars, List.cons_append] at hsplit
    exact (List.cons.inj hsplit).1 ▸ hfirst
  refine ⟨rest, hstart.trans hsplit, ?_, htokens⟩
  have hrest : rest = more.dropWhile isIdentChar := by
    simp only [lexeme, hc, if_true] at hlexeme
    rw [← hlexeme, List.cons_append, List.cons.injEq] at hsplit
    have hboth := hsplit.2.symm.trans (List.takeWhile_append_dropWhile (p := isIdentChar)).symm
    exact List.append_cancel_left hboth
  rw [hrest]
  exact head?_dropWhile more

/-- A mark that is the first token stands at the start. -/
theorem mark_of_tokensOfEnd (mark : Char) (hcs : cs.length ≤ length)
    (h : tokensOfEnd length cs = token :: tokens) (htoken : token.text = String.singleton mark) :
    ∃ rest, stripStart cs = mark :: rest ∧ tokens = tokensOfEnd length rest := by
  obtain ⟨c, more, rest, hstart, _, hsplit, htokens⟩ := exists_lexeme_of_tokensOfEnd hcs h
  rw [htoken, String.toList_singleton, List.singleton_append] at hsplit
  exact ⟨rest, hstart.trans hsplit, htokens⟩

/-- What stands behind a word and blanks: at least one blank, and all of them are passed over. -/
theorem mem_afterBlankRun_one :
    rest ∈ afterBlankRun false 1 cs ↔ cs.head?.any isBlank = true ∧ rest = stripStart cs := by
  cases cs with
  | nil => simp [afterBlankRun]
  | cons c cs =>
    by_cases hc : isBlank c = true
    · have hcount : ((c :: cs).takeWhile isBlank).length = (cs.takeWhile isBlank).length + 1 := by
        simp [hc]
      have hdrop := drop_length_takeWhile isBlank (c :: cs)
      rw [hcount] at hdrop
      simp [afterBlankRun, hc, hdrop, stripStart]
    · simp [afterBlankRun, hc]

/-- No word of a list is the start of another one. -/
def IsPrefixFree (words : List String) : Prop :=
  ∀ word ∈ words, ∀ other ∈ words, word.toList <+: other.toList → word = other

instance (words : List String) : Decidable (IsPrefixFree words) :=
  inferInstanceAs (Decidable (∀ word ∈ words, ∀ other ∈ words,
    word.toList <+: other.toList → word = other))

/-- The word at the start of a text is passed over. -/
theorem afterWord?_eq_some_iff {words : List String} (hwords : IsPrefixFree words) :
    afterWord? words cs = some rest ↔ ∃ word ∈ words, cs = word.toList ++ rest := by
  constructor
  · intro h
    obtain ⟨word, hword, hprefix⟩ := List.exists_of_findSome?_eq_some h
    exact ⟨word, hword, isPrefixOf?_eq_some_iff.mp hprefix⟩
  · rintro ⟨word, hword, rfl⟩
    have hsome : (afterWord? words (word.toList ++ rest)).isSome = true := by
      rw [afterWord?, List.findSome?_isSome_iff]
      exact ⟨word, hword, by rw [isPrefixOf?_eq_some_iff.mpr rfl]; rfl⟩
    obtain ⟨behind, hbehind⟩ := Option.isSome_iff_exists.mp hsome
    obtain ⟨other, hother, hprefix⟩ := List.exists_of_findSome?_eq_some hbehind
    have heq := isPrefixOf?_eq_some_iff.mp hprefix
    -- Both words are starts of the text, so one is the start of the other.
    have hsame : word = other := by
      rcases List.prefix_or_prefix_of_prefix ⟨rest, rfl⟩ ⟨behind, heq.symm⟩ with hle | hle
      · exact hwords word hword other hother hle
      · exact (hwords other hother word hword hle).symm
    subst hsame
    rw [hbehind, List.append_cancel_left heq]

/-- A token starts at the first character of an end of a line, if there is one. -/
structure StartsToken (length : Nat) (cs : List Char) : Prop where
  /-- It is an end of the line. -/
  length_le : cs.length ≤ length
  /-- It starts with no blank. -/
  no_blank : cs.head?.any isBlank = false

/-- The tokens that are read from an end of a line on to another one. -/
structure ReadsTo (length : Nat) (cs : List Char) (read : List Token) (rest : List Char) :
    Prop where
  /-- The end that is reached starts with a token. -/
  startsToken : StartsToken length rest
  /-- The other tokens have been read. -/
  tokens_eq : tokensOfEnd length cs = read ++ tokensOfEnd length rest

/-- Dropping the first blanks leads to a token. -/
theorem startsToken_stripStart (hcs : cs.length ≤ length) : StartsToken length (stripStart cs) :=
  ⟨(stripStart_suffix cs).length_le.trans hcs, head?_stripStart cs⟩

/-- Where nothing is read, nothing is passed over. -/
theorem ReadsTo.refl (hcs : StartsToken length cs) : ReadsTo length cs [] cs :=
  ⟨hcs, rfl⟩

/-- Tokens are read one after the other. -/
theorem ReadsTo.trans {mid : List Char} {read more : List Token} (h : ReadsTo length cs read mid)
    (h' : ReadsTo length mid more rest) : ReadsTo length cs (read ++ more) rest :=
  ⟨h'.startsToken, by rw [h.tokens_eq, h'.tokens_eq, List.append_assoc]⟩

section Words

variable {words : List String} (hwords : ∀ word ∈ words, isIdentifier word = true)
  (hfree : IsPrefixFree words)

include hwords hfree

/-- Passing over a word and the blanks behind it reads the word. -/
theorem exists_readsTo_of_mem_afterWordAndBlanks (hcs : cs.length ≤ length)
    (h : rest ∈ afterWordAndBlanks false words cs) :
    ∃ token, token.text ∈ words ∧ ReadsTo length cs [token] rest := by
  unfold afterWordAndBlanks at h
  cases hafter : afterWord? words cs with
  | none => simp [hafter] at h
  | some behind =>
    rw [hafter] at h
    obtain ⟨hblank, rfl⟩ := mem_afterBlankRun_one.mp h
    obtain ⟨word, hword, rfl⟩ := (afterWord?_eq_some_iff hfree).mp hafter
    have hbehind : behind.length ≤ length := by
      rw [List.length_append] at hcs
      omega
    have htokens := tokensOfEnd_identifier (hwords word hword)
      (head?_isIdentChar_of_blank hblank) hcs
    rw [← tokensOfEnd_stripStart hbehind] at htokens
    exact ⟨_, hword, startsToken_stripStart hbehind, htokens⟩

/-- A word before another identifier is passed over. -/
theorem exists_mem_afterWordAndBlanks (hcs : StartsToken length cs) {next : Token}
    (h : tokensOfEnd length cs = token :: next :: tokens) (htoken : token.text ∈ words)
    (hnext : isIdentifier next.text = true) :
    ∃ rest ∈ afterWordAndBlanks false words cs, rest.length < cs.length ∧
      StartsToken length rest ∧ tokensOfEnd length rest = next :: tokens := by
  obtain ⟨behind, hstart, hstop, hbehind⟩ :=
    identifier_of_tokensOfEnd hcs.length_le h (hwords _ htoken)
  rw [stripStart_eq_self hcs.no_blank] at hstart
  have hshorter : behind.length < cs.length := by
    have hpos := length_pos_of_isIdentifier (hwords _ htoken)
    rw [hstart, List.length_append, String.length_toList]
    omega
  have hlength : behind.length ≤ length := hshorter.le.trans hcs.length_le
  obtain ⟨more, hmore, _⟩ := identifier_of_tokensOfEnd hlength hbehind.symm hnext
  -- Without a blank between them the two identifiers would be one.
  have hblank : behind.head?.any isBlank = true := by
    by_contra hnone
    rw [stripStart_eq_self (by simpa using hnone)] at hmore
    obtain ⟨c, chars, hchars, hc, _⟩ := (isIdentifier_iff _).mp hnext
    rw [hmore, hchars] at hstop
    simp [isIdentChar_of_isIdentStart hc] at hstop
  refine ⟨stripStart behind, ?_, (stripStart_suffix behind).length_le.trans_lt hshorter,
    startsToken_stripStart hlength, ?_⟩
  · rw [afterWordAndBlanks, (afterWord?_eq_some_iff hfree).mpr ⟨token.text, htoken, hstart⟩]
    exact mem_afterBlankRun_one.mpr ⟨hblank, rfl⟩
  · rw [tokensOfEnd_stripStart hlength, hbehind]

/-- Passing over an optional word reads at most one of the words. -/
theorem exists_readsTo_of_mem_afterOptional (hcs : StartsToken length cs)
    (h : rest ∈ afterOptional false words cs) :
    ∃ read : List Token, read.length ≤ 1 ∧ (∀ token ∈ read, token.text ∈ words) ∧
      ReadsTo length cs read rest := by
  rcases List.mem_append.mp h with hword | hnone
  · obtain ⟨token, htoken, hread⟩ :=
      exists_readsTo_of_mem_afterWordAndBlanks hwords hfree hcs.length_le hword
    exact ⟨[token], le_rfl, by simpa using htoken, hread⟩
  · obtain rfl := List.mem_singleton.mp hnone
    exact ⟨[], Nat.zero_le 1, by simp, .refl hcs⟩

/-- An optional word before another identifier is passed over. -/
theorem exists_mem_afterOptional (hcs : StartsToken length cs) {read : List Token} {next : Token}
    (h : tokensOfEnd length cs = read ++ next :: tokens) (hlength : read.length ≤ 1)
    (hread : ∀ token ∈ read, token.text ∈ words) (hnext : isIdentifier next.text = true) :
    ∃ rest ∈ afterOptional false words cs, StartsToken length rest ∧
      tokensOfEnd length rest = next :: tokens := by
  match read, hlength with
  | [], _ => exact ⟨cs, List.mem_append_right _ (List.mem_singleton_self cs), hcs, h⟩
  | [token], _ =>
    obtain ⟨rest, hrest, _, hafter⟩ := exists_mem_afterWordAndBlanks hwords hfree hcs h
      (hread token (List.mem_singleton_self token)) hnext
    exact ⟨rest, List.mem_append_left _ hrest, hafter⟩

end Words

/-- Tags are identifiers. -/
theorem isIdentifier_of_mem_tagWords : ∀ word ∈ tagWords, isIdentifier word = true := by
  decide

/-- Signs are identifiers. -/
theorem isIdentifier_of_mem_signWords : ∀ word ∈ signWords, isIdentifier word = true := by
  decide

/-- Modifiers are identifiers. -/
theorem isIdentifier_of_mem_modifierWords : ∀ word ∈ modifierWords, isIdentifier word = true := by
  decide

/-- No modifier is the start of another one. -/
theorem isPrefixFree_modifierWords : IsPrefixFree modifierWords := by
  decide

/-- Passing over modifiers reads modifiers. -/
theorem exists_readsTo_of_mem_afterModifiers {fuel : Nat} (hcs : StartsToken length cs)
    (h : rest ∈ afterModifiers false fuel cs) :
    ∃ read : List Token, (∀ token ∈ read, token.text ∈ modifierWords) ∧
      ReadsTo length cs read rest := by
  induction fuel generalizing cs with
  | zero =>
    obtain rfl := List.mem_singleton.mp h
    exact ⟨[], by simp, .refl hcs⟩
  | succ fuel ih =>
    rcases List.mem_append.mp h with hword | hnone
    · obtain ⟨mid, hmid, hrest⟩ := List.mem_flatMap.mp hword
      obtain ⟨token, htoken, hfirst⟩ := exists_readsTo_of_mem_afterWordAndBlanks
        isIdentifier_of_mem_modifierWords isPrefixFree_modifierWords hcs.length_le hmid
      obtain ⟨read, hread, hmore⟩ := ih hfirst.startsToken hrest
      exact ⟨token :: read, List.forall_mem_cons.mpr ⟨htoken, hread⟩, hfirst.trans hmore⟩
    · obtain rfl := List.mem_singleton.mp hnone
      exact ⟨[], by simp, .refl hcs⟩

/-- Identifiers before an identifier start with an identifier. -/
theorem exists_identifier_append {read : List Token}
    (hread : ∀ token ∈ read, isIdentifier token.text = true) {next : Token}
    (hnext : isIdentifier next.text = true) (tokens : List Token) :
    ∃ first more, read ++ next :: tokens = first :: more ∧ isIdentifier first.text = true := by
  cases read with
  | nil => exact ⟨next, tokens, rfl, hnext⟩
  | cons first read => exact ⟨first, read ++ next :: tokens, rfl, hread first List.mem_cons_self⟩

/-- Modifiers before another identifier are passed over. -/
theorem exists_mem_afterModifiers {fuel : Nat} (hcs : StartsToken length cs)
    (hfuel : cs.length ≤ fuel) {read : List Token} {next : Token}
    (h : tokensOfEnd length cs = read ++ next :: tokens)
    (hread : ∀ token ∈ read, token.text ∈ modifierWords) (hnext : isIdentifier next.text = true) :
    ∃ rest ∈ afterModifiers false fuel cs, StartsToken length rest ∧
      tokensOfEnd length rest = next :: tokens := by
  induction read generalizing cs fuel with
  | nil =>
    refine ⟨cs, ?_, hcs, h⟩
    cases fuel with
    | zero => exact List.mem_singleton_self cs
    | succ fuel => exact List.mem_append_right _ (List.mem_singleton_self cs)
  | cons token read ih =>
    obtain ⟨htoken, hread⟩ := List.forall_mem_cons.mp hread
    -- Behind a modifier comes another one or the identifier, so a blank separates them.
    obtain ⟨second, more, hmore, hsecond⟩ := exists_identifier_append
      (fun token htoken => isIdentifier_of_mem_modifierWords _ (hread token htoken)) hnext tokens
    rw [List.cons_append, hmore] at h
    obtain ⟨mid, hmid, hshorter, hstarts, htokens⟩ := exists_mem_afterWordAndBlanks
      isIdentifier_of_mem_modifierWords isPrefixFree_modifierWords hcs h htoken hsecond
    obtain ⟨fuel, rfl⟩ : ∃ less, fuel = less + 1 := ⟨fuel - 1, by omega⟩
    obtain ⟨rest, hrest, hafter⟩ :=
      ih hstarts (show mid.length ≤ fuel by omega) (htokens.trans hmore.symm) hread
    exact ⟨rest, List.mem_append_left _ (List.mem_flatMap.mpr ⟨mid, hmid, hrest⟩), hafter⟩

/-- What may stand between a type and a name: empty subscripts, and then perhaps a mark of
indirection. -/
inductive IsTypeSuffix : List String → Prop
  /-- The name follows. -/
  | nil : IsTypeSuffix []
  /-- A mark of indirection stands before the name. -/
  | indirection {mark : String} : mark = "*" ∨ mark = "&" → IsTypeSuffix [mark]
  /-- An empty subscript comes first. -/
  | subscript {words : List String} : IsTypeSuffix words → IsTypeSuffix ("[" :: "]" :: words)

/-- No blank is a word character. -/
theorem isWordChar_of_isBlank {c : Char} (h : isBlank c = true) : isWordChar c = false := by
  have hapart : ∀ blank ∈ blankIntervals, ∀ word ∈ wideWordIntervals,
      blank.2 < word.1 ∨ word.2 < blank.1 := by
    decide +kernel
  unfold isWordChar
  split
  · by_contra hword
    have hident : isIdentChar c = true := by
      simpa only [isIdentChar, Bool.not_eq_false] using hword
    rw [isBlank_of_isIdentChar hident] at h
    cases h
  · rw [inIntervals, List.any_eq_false]
    intro word hword hc
    rw [isBlank, inIntervals, List.any_eq_true] at h
    obtain ⟨blank, hblank, hb⟩ := h
    simp only [Bool.and_eq_true, decide_eq_true_eq] at hb hc
    have hdisjoint := hapart blank hblank word hword
    omega

section Types

variable {types : List String} (htypes : ∀ type ∈ types, isIdentifier type = true)

include htypes

/-- Passing over a type reads it. -/
theorem exists_of_mem_afterTypes (hne : types ≠ []) (hcs : cs.length ≤ length)
    (h : rest ∈ afterTypes (longestFirst types) cs) :
    ∃ token : Token, token.text ∈ types ∧ rest.length ≤ length ∧
      tokensOfEnd length cs = token :: tokensOfEnd length rest := by
  obtain ⟨chars, hchars, hafter⟩ := List.mem_filterMap.mp h
  obtain ⟨type, htype, rfl⟩ := (mem_longestFirst hne).mp hchars
  obtain ⟨behind, hprefix, hend⟩ := Option.bind_eq_some_iff.mp hafter
  split at hend
  case isTrue htypeEnd =>
    obtain rfl := Option.some.inj hend
    obtain rfl := isPrefixOf?_eq_some_iff.mp hprefix
    have hstop := head?_isIdentChar ((isTypeEnd_iff (htypes type htype) behind).mp htypeEnd)
    have htokens := tokensOfEnd_identifier (htypes type htype) hstop hcs
    rw [List.length_append] at hcs
    exact ⟨_, htype, by omega, htokens⟩
  case isFalse => cases hend

/-- A type before a name, a subscript or a mark of indirection is passed over. -/
theorem exists_mem_afterTypes (hcs : StartsToken length cs) {next : Token}
    (h : tokensOfEnd length cs = token :: next :: tokens) (htoken : token.text ∈ types)
    (hnext : isIdentifier next.text = true ∨
      ∃ mark : Char, isWordChar mark = false ∧ next.text = String.singleton mark) :
    ∃ rest ∈ afterTypes (longestFirst types) cs, rest.length ≤ length ∧
      tokensOfEnd length rest = next :: tokens := by
  obtain ⟨behind, hstart, hstop, hbehind⟩ :=
    identifier_of_tokensOfEnd hcs.length_le h (htypes _ htoken)
  rw [stripStart_eq_self hcs.no_blank] at hstart
  have hlength : behind.length ≤ length := by
    have hle := hcs.length_le
    rw [hstart, List.length_append] at hle
    omega
  have hword : behind.head?.any isWordChar = false := by
    by_cases hblank : behind.head?.any isBlank = true
    · cases behind with
      | nil => rfl
      | cons c behind => simpa using isWordChar_of_isBlank (by simpa using hblank)
    · have hself := stripStart_eq_self (by simpa using hblank)
      rcases hnext with hnext | ⟨mark, hmark, hnext⟩
      · obtain ⟨more, hmore, _⟩ := identifier_of_tokensOfEnd hlength hbehind.symm hnext
        obtain ⟨c, chars, hchars, hc, _⟩ := (isIdentifier_iff _).mp hnext
        rw [hself] at hmore
        rw [hmore, hchars] at hstop
        simp [isIdentChar_of_isIdentStart hc] at hstop
      · obtain ⟨more, hmore, _⟩ := mark_of_tokensOfEnd mark hlength hbehind.symm hnext
        rw [hself] at hmore
        simpa [hmore] using hmark
  have hne : types ≠ [] := List.ne_nil_of_mem htoken
  refine ⟨behind, ?_, hlength, hbehind.symm⟩
  refine List.mem_filterMap.mpr ⟨token.text.toList, (mem_longestFirst hne).mpr ⟨_, htoken, rfl⟩, ?_⟩
  rw [isPrefixOf?_eq_some_iff.mpr hstart, Option.bind_some,
    if_pos ((isTypeEnd_iff (htypes _ htoken) behind).mpr hword)]

end Types

/-- Dropping empty subscripts reads them. -/
theorem exists_readsTo_dropEmptySubscripts (fuel : Nat) (hcs : StartsToken length cs) :
    ∃ read : List Token, (∀ words, IsTypeSuffix words →
        IsTypeSuffix (read.map (·.text) ++ words)) ∧
      ReadsTo length cs read (dropEmptySubscripts fuel cs) := by
  fun_induction dropEmptySubscripts fuel cs with
  | case1 cs => exact ⟨[], fun words hwords => hwords, .refl hcs⟩
  | case2 fuel rest inner hinner ih =>
    have hrest : rest.length ≤ length := (Nat.le_succ _).trans hcs.length_le
    have hstrip : ']' :: inner = stripStart rest := hinner.symm
    have hinside : (']' :: inner).length ≤ length :=
      hstrip ▸ (stripStart_suffix rest).length_le.trans hrest
    have hinner : inner.length ≤ length := (Nat.le_succ _).trans hinside
    have hopen := tokensOfEnd_mark (c := '[') (by decide) hcs.length_le
    have hclose := tokensOfEnd_mark (c := ']') (by decide) hinside
    obtain ⟨read, hread, hmore⟩ := ih (startsToken_stripStart hinner)
    refine ⟨⟨.punct, "[", length - ('[' :: rest).length⟩ ::
      ⟨.punct, "]", length - (']' :: inner).length⟩ :: read,
      fun words hwords => .subscript (hread words hwords), hmore.startsToken, ?_⟩
    rw [hopen, ← tokensOfEnd_stripStart hrest, ← hstrip, hclose, ← tokensOfEnd_stripStart hinner,
      hmore.tokens_eq]
    rfl
  | case3 => exact ⟨[], fun words hwords => hwords, .refl hcs⟩
  | case4 => exact ⟨[], fun words hwords => hwords, .refl hcs⟩

/-- Dropping a mark of indirection reads it. -/
theorem exists_readsTo_dropIndirection (hcs : StartsToken length cs) :
    ∃ read : List Token, IsTypeSuffix (read.map (·.text)) ∧
      ReadsTo length cs read (dropIndirection cs) := by
  unfold dropIndirection
  split
  case h_1 rest =>
    have hrest : rest.length ≤ length := (Nat.le_succ _).trans hcs.length_le
    have hmark := tokensOfEnd_mark (c := '*') (by decide) hcs.length_le
    rw [← tokensOfEnd_stripStart hrest] at hmark
    exact ⟨[_], .indirection (Or.inl rfl), startsToken_stripStart hrest, hmark⟩
  case h_2 rest =>
    have hrest : rest.length ≤ length := (Nat.le_succ _).trans hcs.length_le
    have hmark := tokensOfEnd_mark (c := '&') (by decide) hcs.length_le
    rw [← tokensOfEnd_stripStart hrest] at hmark
    exact ⟨[_], .indirection (Or.inr rfl), startsToken_stripStart hrest, hmark⟩
  case h_3 => exact ⟨[], .nil, .refl hcs⟩

/-- The start of the name of a header behind its type. -/
def nameStart (cs : List Char) : List Char :=
  dropIndirection (dropEmptySubscripts cs.length (stripStart cs))

/-- What stands between a type and a name is read. -/
theorem exists_readsTo_nameStart (hcs : cs.length ≤ length) :
    ∃ read : List Token, IsTypeSuffix (read.map (·.text)) ∧
      ReadsTo length cs read (nameStart cs) := by
  obtain ⟨subscripts, hsubscripts, hfirst⟩ :=
    exists_readsTo_dropEmptySubscripts cs.length (startsToken_stripStart hcs)
  obtain ⟨marks, hmarks, hsecond⟩ := exists_readsTo_dropIndirection hfirst.startsToken
  refine ⟨subscripts ++ marks, ?_, ?_⟩
  · rw [List.map_append]
    exact hsubscripts _ hmarks
  · obtain ⟨hstarts, htokens⟩ := hfirst.trans hsecond
    rw [tokensOfEnd_stripStart hcs] at htokens
    exact ⟨hstarts, htokens⟩

/-- Empty subscripts before a name are passed over. -/
theorem exists_tokensOfEnd_dropEmptySubscripts {fuel : Nat} (hcs : StartsToken length cs)
    (hfuel : cs.length ≤ fuel) {words : List String} (hwords : IsTypeSuffix words)
    {read : List Token} {name : Token} (h : tokensOfEnd length cs = read ++ name :: tokens)
    (hread : read.map (·.text) = words) (hname : isIdentifier name.text = true) :
    StartsToken length (dropEmptySubscripts fuel cs) ∧
      ∃ marks : List Token, tokensOfEnd length (dropEmptySubscripts fuel cs) =
        marks ++ name :: tokens ∧
          (marks = [] ∨ ∃ mark : Token, marks = [mark] ∧ (mark.text = "*" ∨ mark.text = "&")) := by
  induction hwords generalizing cs fuel read with
  | nil =>
    obtain rfl := List.map_eq_nil_iff.mp hread
    obtain ⟨rest, hstart, _⟩ := identifier_of_tokensOfEnd hcs.length_le h hname
    obtain ⟨c, chars, hchars, hc, _⟩ := (isIdentifier_iff _).mp hname
    rw [stripStart_eq_self hcs.no_blank, hchars, List.cons_append] at hstart
    have hself : dropEmptySubscripts fuel cs = cs := by
      rw [hstart, dropEmptySubscripts_cons (ne_of_isIdentStart hc rfl)]
    rw [hself]
    exact ⟨hcs, [], h, Or.inl rfl⟩
  | indirection hmark =>
    obtain ⟨mark, rfl, rfl⟩ := List.map_eq_singleton_iff.mp hread
    have hself : dropEmptySubscripts fuel cs = cs := by
      rcases hmark with hstar | hand
      · obtain ⟨rest, hstart, _⟩ := mark_of_tokensOfEnd '*' hcs.length_le h hstar
        rw [stripStart_eq_self hcs.no_blank] at hstart
        rw [hstart, dropEmptySubscripts_cons (by decide)]
      · obtain ⟨rest, hstart, _⟩ := mark_of_tokensOfEnd '&' hcs.length_le h hand
        rw [stripStart_eq_self hcs.no_blank] at hstart
        rw [hstart, dropEmptySubscripts_cons (by decide)]
    rw [hself]
    exact ⟨hcs, [mark], h, Or.inr ⟨mark, rfl, hmark⟩⟩
  | subscript _ ih =>
    obtain ⟨opening, read, rfl, hopening, hread⟩ := List.map_eq_cons_iff.mp hread
    obtain ⟨closing, read, rfl, hclosing, hread⟩ := List.map_eq_cons_iff.mp hread
    obtain ⟨rest, hstart, hrest⟩ := mark_of_tokensOfEnd '[' hcs.length_le h hopening
    rw [stripStart_eq_self hcs.no_blank] at hstart
    have hlength := hcs.length_le
    rw [hstart, List.length_cons] at hlength hfuel
    obtain ⟨inner, hinner, htokens⟩ :=
      mark_of_tokensOfEnd ']' (Nat.le_of_succ_le hlength) hrest.symm hclosing
    have hle := (stripStart_suffix rest).length_le
    have hle' := (stripStart_suffix inner).length_le
    rw [hinner, List.length_cons] at hle
    have hinside : inner.length ≤ length := by omega
    obtain ⟨fuel, rfl⟩ : ∃ less, fuel = less + 1 := ⟨fuel - 1, by omega⟩
    have hdrop : dropEmptySubscripts (fuel + 1) cs =
        dropEmptySubscripts fuel (stripStart inner) := by
      simp only [hstart, dropEmptySubscripts, hinner]
    rw [hdrop]
    exact ih (startsToken_stripStart hinside) (by omega)
      ((tokensOfEnd_stripStart hinside).trans htokens.symm) hread

/-- A mark of indirection before a name is passed over. -/
theorem tokensOfEnd_dropIndirection (hcs : StartsToken length cs) {marks : List Token}
    {name : Token} (h : tokensOfEnd length cs = marks ++ name :: tokens)
    (hmarks : marks = [] ∨ ∃ mark : Token, marks = [mark] ∧ (mark.text = "*" ∨ mark.text = "&"))
    (hname : isIdentifier name.text = true) :
    tokensOfEnd length (dropIndirection cs) = name :: tokens := by
  rcases hmarks with rfl | ⟨mark, rfl, hmark⟩
  · obtain ⟨rest, hstart, _⟩ := identifier_of_tokensOfEnd hcs.length_le h hname
    obtain ⟨c, chars, hchars, hc, _⟩ := (isIdentifier_iff _).mp hname
    rw [stripStart_eq_self hcs.no_blank, hchars, List.cons_append] at hstart
    have hself : dropIndirection cs = cs := by
      rw [hstart, dropIndirection_cons (ne_of_isIdentStart hc rfl) (ne_of_isIdentStart hc rfl)]
    rw [hself]
    exact h
  · have hpassed : ∀ c rest, cs = c :: rest → dropIndirection (c :: rest) = stripStart rest →
        name :: tokens = tokensOfEnd length rest →
          tokensOfEnd length (dropIndirection cs) = name :: tokens := by
      rintro c rest rfl hdrop htokens
      rw [hdrop, tokensOfEnd_stripStart ((Nat.le_succ _).trans hcs.length_le), ← htokens]
    rcases hmark with hstar | hand
    · obtain ⟨rest, hstart, hrest⟩ := mark_of_tokensOfEnd '*' hcs.length_le h hstar
      rw [stripStart_eq_self hcs.no_blank] at hstart
      exact hpassed '*' rest hstart rfl hrest
    · obtain ⟨rest, hstart, hrest⟩ := mark_of_tokensOfEnd '&' hcs.length_le h hand
      rw [stripStart_eq_self hcs.no_blank] at hstart
      exact hpassed '&' rest hstart rfl hrest

/-- All that stands between a type and a name is passed over. -/
theorem tokensOfEnd_nameStart (hcs : cs.length ≤ length) {read : List Token} {name : Token}
    (h : tokensOfEnd length cs = read ++ name :: tokens) (hread : IsTypeSuffix (read.map (·.text)))
    (hname : isIdentifier name.text = true) :
    tokensOfEnd length (nameStart cs) = name :: tokens := by
  rw [← tokensOfEnd_stripStart hcs] at h
  obtain ⟨hstarts, marks, htokens, hmarks⟩ := exists_tokensOfEnd_dropEmptySubscripts
    (startsToken_stripStart hcs) (stripStart_suffix cs).length_le hread h rfl hname
  exact tokensOfEnd_dropIndirection hstarts htokens hmarks hname

/-- The identifier that is split off a text is its first token. -/
theorem eq_append_of_splitIdent? {name behind : List Char}
    (h : splitIdent? cs = some (name, behind)) :
    isIdentifier (String.ofList name) = true ∧ cs = (String.ofList name).toList ++ behind ∧
      behind.head?.any isIdentChar = false := by
  obtain ⟨hname, _⟩ := prefix_of_splitIdent? h
  unfold splitIdent? at h
  split at h
  · obtain ⟨rfl, rfl⟩ := Prod.mk.inj (Option.some.inj h)
    refine ⟨hname, ?_, head?_dropWhile cs⟩
    rw [String.toList_ofList, List.takeWhile_append_dropWhile]
  · cases h

/-- What stands behind a character at the start of a text. -/
theorem afterChar?_eq_some_iff {c : Char} : afterChar? c cs = some rest ↔ cs = c :: rest := by
  cases cs with
  | nil => simp [afterChar?]
  | cons d cs => by_cases hd : d = c <;> simp [afterChar?, hd]

/-- A name behind a type, with the parenthesis that follows it. -/
theorem headerName?_eq_some (hcs : cs.length ≤ length) {name : String}
    (hname : isIdentifier name = true) {behind : List Char}
    (hstart : nameStart cs = name.toList ++ behind)
    (hstop : behind.head?.any isIdentChar = false) (hparen : stripStart behind = '(' :: rest) :
    headerName? length cs = some ⟨name, length - (nameStart cs).length, length - rest.length⟩ ∧
      rest.length < length ∧ tokensOfEnd length (nameStart cs) =
        ⟨.ident, name, length - (nameStart cs).length⟩ ::
          ⟨.punct, "(", length - rest.length - 1⟩ :: tokensOfEnd length rest := by
  obtain ⟨_, _, hstarts, _⟩ := exists_readsTo_nameStart hcs
  have hle := hstarts.length_le
  have hbehind : behind.length ≤ length := by
    rw [hstart, List.length_append] at hle
    omega
  have hrest : ('(' :: rest).length ≤ length :=
    hparen ▸ (startsToken_stripStart hbehind).length_le
  refine ⟨?_, hrest, ?_⟩
  · rw [headerName?, ← nameStart]
    simp [hstart, splitIdent?_identifier hname hstop, hparen, afterChar?]
  · rw [hstart] at hle ⊢
    rw [tokensOfEnd_identifier hname hstop hle, ← tokensOfEnd_stripStart hbehind, hparen,
      tokensOfEnd_mark (by decide) hrest]
    rfl

/-- The name of a header is the identifier before the first parenthesis behind the type. -/
theorem headerName?_eq_some_iff (hcs : cs.length ≤ length) {header : HeaderMatch} :
    headerName? length cs = some header ↔
      ∃ read tokens, IsTypeSuffix (read.map Token.text) ∧ isIdentifier header.name = true ∧
        0 < header.stop ∧ tokensOfEnd length cs = read ++ ⟨.ident, header.name, header.column⟩ ::
          ⟨.punct, "(", header.stop - 1⟩ :: tokens := by
  obtain ⟨passed, hpassed, hstarts, htokens⟩ := exists_readsTo_nameStart hcs
  constructor
  · intro h
    obtain ⟨⟨chars, behind⟩, hsplit, h'⟩ := Option.bind_eq_some_iff.mp h
    obtain ⟨rest, hparen, _⟩ := Option.bind_eq_some_iff.mp h'
    obtain ⟨hname, hstart, hstop⟩ := eq_append_of_splitIdent? hsplit
    obtain ⟨hheader, hrest, hnamed⟩ :=
      headerName?_eq_some hcs hname hstart hstop (afterChar?_eq_some_iff.mp hparen)
    obtain rfl := Option.some.inj (hheader.symm.trans h)
    exact ⟨passed, tokensOfEnd length rest, hpassed, hname, Nat.sub_pos_of_lt hrest,
      htokens.trans (congrArg _ hnamed)⟩
  · rintro ⟨read, tokens, hread, hname, hpos, h⟩
    have hnamed := tokensOfEnd_nameStart hcs h hread hname
    obtain ⟨behind, hstart, hstop, hbehind⟩ :=
      identifier_of_tokensOfEnd hstarts.length_le hnamed hname
    rw [stripStart_eq_self hstarts.no_blank] at hstart
    have hlength : behind.length ≤ length := by
      have hle := hstarts.length_le
      rw [hstart, List.length_append] at hle
      omega
    obtain ⟨rest, hparen, _⟩ := mark_of_tokensOfEnd '(' hlength hbehind.symm rfl
    obtain ⟨hheader, hrest, htokens⟩ := headerName?_eq_some hcs hname hstart hstop hparen
    -- The columns are those of the two tokens.
    have hsame := hnamed.symm.trans htokens
    simp only [List.cons.injEq, Token.mk.injEq, true_and] at hsame
    obtain ⟨hcolumn, hclose, _⟩ := hsame
    have hstopEq : header.stop = length - rest.length := by omega
    rw [hheader, ← hcolumn, ← hstopEq]

/-- The words and marks of a header before its name: modifiers, perhaps a tag, perhaps a sign, a
type, and what may stand between a type and a name. -/
def IsHeaderStart (types words : List String) : Prop :=
  ∃ modifiers tag sign type suffix, words = modifiers ++ (tag ++ (sign ++ type :: suffix)) ∧
    (∀ word ∈ modifiers, word ∈ modifierWords) ∧
    (tag.length ≤ 1 ∧ ∀ word ∈ tag, word ∈ tagWords) ∧
    (sign.length ≤ 1 ∧ ∀ word ∈ sign, word ∈ signWords) ∧ type ∈ types ∧ IsTypeSuffix suffix

/-- A header starts a list of tokens: what stands before the name, the name and the parenthesis. -/
def HasHeader (types : List String) (tokens : List Token) (header : HeaderMatch) : Prop :=
  ∃ before after, IsHeaderStart types (before.map Token.text) ∧
    isIdentifier header.name = true ∧ 0 < header.stop ∧
    tokens = before ++ ⟨.ident, header.name, header.column⟩ ::
      ⟨.punct, "(", header.stop - 1⟩ :: after

/-- Behind a type comes the name or a mark. -/
theorem IsTypeSuffix.exists_next {suffix : List Token} (h : IsTypeSuffix (suffix.map Token.text))
    (name : Token) (hname : isIdentifier name.text = true) (tokens : List Token) :
    ∃ next more, suffix ++ name :: tokens = next :: more ∧ (isIdentifier next.text = true ∨
      ∃ mark : Char, isWordChar mark = false ∧ next.text = String.singleton mark) := by
  cases suffix with
  | nil => exact ⟨name, tokens, rfl, Or.inl hname⟩
  | cons next suffix =>
    refine ⟨next, suffix ++ name :: tokens, rfl, Or.inr ?_⟩
    generalize hwords : (next :: suffix).map Token.text = words at h
    cases h with
    | nil => cases hwords
    | indirection hmark =>
      obtain ⟨rfl, _⟩ := List.cons.inj hwords
      rcases hmark with hstar | hand
      · exact ⟨'*', by decide, hstar⟩
      · exact ⟨'&', by decide, hand⟩
    | subscript _ => exact ⟨'[', by decide, (List.cons.inj hwords).1⟩

/-- No parenthesis stands between a type and a name. -/
theorem IsTypeSuffix.ne_paren {words : List String} (h : IsTypeSuffix words) :
    ∀ word ∈ words, word ≠ "(" := by
  induction h with
  | nil => simp
  | indirection hmark => rcases hmark with rfl | rfl <;> simp
  | subscript _ ih => simpa using ih

variable {types : List String} {line : List Char} {header : HeaderMatch}

/-- Identifiers are no parentheses. -/
theorem ne_paren_of_isIdentifier {name : String} (hname : isIdentifier name = true) :
    name ≠ "(" := by
  rintro rfl
  exact absurd hname (by decide)

/-- No parenthesis stands before the name of a header. -/
theorem IsHeaderStart.ne_paren (htypes : ∀ type ∈ types, isIdentifier type = true)
    {words : List String} (h : IsHeaderStart types words) : ∀ word ∈ words, word ≠ "(" := by
  obtain ⟨modifiers, tag, sign, type, suffix, rfl, hmodifiers, ⟨_, htag⟩, ⟨_, hsign⟩, htype,
    hsuffix⟩ := h
  intro word hword
  simp only [List.mem_append, List.mem_cons] at hword
  rcases hword with hword | hword | hword | rfl | hword
  · exact ne_paren_of_isIdentifier (isIdentifier_of_mem_modifierWords word (hmodifiers word hword))
  · exact ne_paren_of_isIdentifier (isIdentifier_of_mem_tagWords word (htag word hword))
  · exact ne_paren_of_isIdentifier (isIdentifier_of_mem_signWords word (hsign word hword))
  · exact ne_paren_of_isIdentifier (htypes _ htype)
  · exact hsuffix.ne_paren word hword

/-- Tokens start with at most one header: its name is the token before the first parenthesis. -/
theorem HasHeader.unique (htypes : ∀ type ∈ types, isIdentifier type = true)
    {header' : HeaderMatch} (h : HasHeader types tokens header)
    (h' : HasHeader types tokens header') : header = header' := by
  obtain ⟨before, after, hstart, hname, hstop, htokens⟩ := h
  obtain ⟨before', after', hstart', hname', hstop', htokens'⟩ := h'
  have hcut : ∀ (before after : List Token) (header : HeaderMatch),
      IsHeaderStart types (before.map Token.text) → isIdentifier header.name = true →
        (before ++ ⟨.ident, header.name, header.column⟩ :: ⟨.punct, "(", header.stop - 1⟩ ::
          after).takeWhile (·.text != "(") =
            before ++ [⟨.ident, header.name, header.column⟩] := by
    intro before after header hstart hname
    rw [List.append_cons]
    refine takeWhile_append_of_stop (fun token htoken => ?_) (by simp)
    rcases List.mem_append.mp htoken with htoken | htoken
    · exact bne_iff_ne.mpr (hstart.ne_paren htypes _ (List.mem_map_of_mem htoken))
    · rw [List.mem_singleton.mp htoken]
      exact bne_iff_ne.mpr (ne_paren_of_isIdentifier hname)
  have hsame : before ++ [⟨.ident, header.name, header.column⟩] =
      before' ++ [⟨.ident, header'.name, header'.column⟩] := by
    rw [← hcut before after header hstart hname, ← hcut before' after' header' hstart' hname',
      ← htokens, ← htokens']
  obtain ⟨rfl, hnames⟩ := List.append_inj' hsame rfl
  have hrests := List.append_cancel_left (htokens.symm.trans htokens')
  simp only [List.cons.injEq, Token.mk.injEq, true_and] at hnames hrests
  obtain ⟨⟨hnameEq, hcolumn⟩, _⟩ := hnames
  obtain ⟨_, hclose, _⟩ := hrests
  have hstopEq : header.stop = header'.stop := by omega
  calc header = ⟨header.name, header.column, header.stop⟩ := rfl
    _ = ⟨header'.name, header'.column, header'.stop⟩ := by rw [hnameEq, hcolumn, hstopEq]
    _ = header' := rfl

/-- The tokens of an end that is the whole line. -/
theorem tokensOfEnd_self (line : List Char) : tokensOfEnd line.length line = tokenize line := by
  rw [tokensOfEnd, Nat.sub_self, tokenize]

section Match

variable (htypes : ∀ type ∈ types, isIdentifier type = true) (hne : types ≠ [])

include htypes hne

/-- The ways to pass over what stands before the name of a header. -/
theorem matchHeader?_eq_findSome? (line : List Char) :
    matchHeader? types line =
      (((((afterModifiers false line.length (stripStart line)).flatMap
        (afterOptional false tagWords)).flatMap (afterOptional false signWords)).flatMap
        (afterTypes (longestFirst types)))).findSome? (headerName? line.length) := by
  simp only [matchHeader?, any_longestFirst_eq_false htypes hne, afterBlankRun_zero,
    List.flatMap_cons, List.flatMap_nil, List.append_nil]

/-- A header that is recognised starts the tokens of the line. -/
theorem hasHeader_of_matchHeader? (h : matchHeader? types line = some header) :
    HasHeader types (tokenize line) header := by
  rw [matchHeader?_eq_findSome? htypes hne] at h
  obtain ⟨behind, hbehind, hname⟩ := List.exists_of_findSome?_eq_some h
  obtain ⟨afterSign, hsign, htype⟩ := List.mem_flatMap.mp hbehind
  obtain ⟨afterTag, htag, hsign⟩ := List.mem_flatMap.mp hsign
  obtain ⟨afterWords, hwords, htag⟩ := List.mem_flatMap.mp htag
  obtain ⟨modifiers, hmodifiers, hread⟩ :=
    exists_readsTo_of_mem_afterModifiers (startsToken_stripStart le_rfl) hwords
  obtain ⟨tag, htagLength, htags, hread'⟩ :=
    exists_readsTo_of_mem_afterOptional isIdentifier_of_mem_tagWords (by decide) hread.startsToken
      htag
  obtain ⟨sign, hsignLength, hsigns, hread''⟩ :=
    exists_readsTo_of_mem_afterOptional isIdentifier_of_mem_signWords (by decide)
      hread'.startsToken hsign
  obtain ⟨type, htype, hlength, htokens⟩ :=
    exists_of_mem_afterTypes htypes hne hread''.startsToken.length_le htype
  obtain ⟨suffix, after, hsuffix, hidentifier, hstop, hnamed⟩ :=
    (headerName?_eq_some_iff hlength).mp hname
  refine ⟨modifiers ++ (tag ++ (sign ++ type :: suffix)), after, ?_, hidentifier, hstop, ?_⟩
  · refine ⟨modifiers.map (·.text), tag.map (·.text), sign.map (·.text), type.text,
      suffix.map (·.text), by simp, by simpa using hmodifiers, ⟨by simpa using htagLength,
      by simpa using htags⟩, ⟨by simpa using hsignLength, by simpa using hsigns⟩, htype, hsuffix⟩
  · rw [← tokensOfEnd_self, ← tokensOfEnd_stripStart le_rfl,
      ((hread.trans hread').trans hread'').tokens_eq, htokens, hnamed]
    simp

/-- A header that starts the tokens of a line is recognised. -/
theorem isSome_matchHeader?_of_hasHeader (h : HasHeader types (tokenize line) header) :
    (matchHeader? types line).isSome = true := by
  obtain ⟨before, after, ⟨modifierTexts, tagTexts, signTexts, typeText, suffixTexts, hbefore,
    hmodifiers, ⟨htagLength, htags⟩, ⟨hsignLength, hsigns⟩, htype, hsuffix⟩, hidentifier, hstop,
    htokens⟩ := h
  obtain ⟨modifiers, tagged, rfl, rfl, htagged⟩ := List.map_eq_append_iff.mp hbefore
  obtain ⟨tag, signed, rfl, rfl, hsigned⟩ := List.map_eq_append_iff.mp htagged
  obtain ⟨sign, typed, rfl, rfl, htyped⟩ := List.map_eq_append_iff.mp hsigned
  obtain ⟨type, suffix, rfl, rfl, rfl⟩ := List.map_eq_cons_iff.mp htyped
  simp only [List.mem_map, forall_exists_index, and_imp, forall_apply_eq_imp_iff₂, List.length_map]
    at hmodifiers htagLength htags hsignLength hsigns
  generalize hnamed : (⟨.ident, header.name, header.column⟩ : Token) ::
    ⟨.punct, "(", header.stop - 1⟩ :: after = named at htokens
  rw [← tokensOfEnd_self, ← tokensOfEnd_stripStart le_rfl] at htokens
  simp only [List.append_assoc, List.cons_append] at htokens
  -- Behind each piece comes an identifier, the type at the latest.
  have htypeName := htypes type.text htype
  obtain ⟨second, more, hmore, hsecond⟩ := exists_identifier_append
    (fun token htoken => isIdentifier_of_mem_signWords _ (hsigns token htoken)) htypeName
    (suffix ++ named)
  obtain ⟨first, more', hmore', hfirst⟩ := exists_identifier_append
    (fun token htoken => isIdentifier_of_mem_tagWords _ (htags token htoken)) hsecond more
  rw [hmore, hmore'] at htokens
  obtain ⟨afterWords, hwords, hstarts, htokens⟩ := exists_mem_afterModifiers
    (startsToken_stripStart le_rfl) (stripStart_suffix line).length_le htokens hmodifiers hfirst
  rw [← hmore'] at htokens
  obtain ⟨afterTag, htag, hstarts, htokens⟩ := exists_mem_afterOptional
    isIdentifier_of_mem_tagWords (by decide) hstarts htokens htagLength htags hsecond
  rw [← hmore] at htokens
  obtain ⟨afterSign, hsign, hstarts, htokens⟩ := exists_mem_afterOptional
    isIdentifier_of_mem_signWords (by decide) hstarts htokens hsignLength hsigns htypeName
  obtain ⟨next, more, hmore, hnext⟩ := hsuffix.exists_next
    ⟨.ident, header.name, header.column⟩ hidentifier (⟨.punct, "(", header.stop - 1⟩ :: after)
  rw [hnamed] at hmore
  rw [hmore] at htokens
  obtain ⟨behind, hbehind, hlength, htokens⟩ :=
    exists_mem_afterTypes htypes hstarts htokens htype hnext
  rw [← hmore, ← hnamed] at htokens
  have hheader := (headerName?_eq_some_iff hlength).mpr
    ⟨suffix, after, hsuffix, hidentifier, hstop, htokens⟩
  rw [matchHeader?_eq_findSome? htypes hne, List.findSome?_isSome_iff]
  refine ⟨behind, ?_, by rw [hheader]; rfl⟩
  exact List.mem_flatMap.mpr ⟨afterSign, List.mem_flatMap.mpr ⟨afterTag,
    List.mem_flatMap.mpr ⟨afterWords, hwords, htag⟩, hsign⟩, hbehind⟩

/-- The header pattern recognises a line if and only if a header starts its tokens. -/
theorem matchHeader?_eq_some_iff :
    matchHeader? types line = some header ↔ HasHeader types (tokenize line) header := by
  refine ⟨hasHeader_of_matchHeader? htypes hne, fun h => ?_⟩
  obtain ⟨found, hfound⟩ :=
    Option.isSome_iff_exists.mp (isSome_matchHeader?_of_hasHeader htypes hne h)
  rw [hfound, (hasHeader_of_matchHeader? htypes hne hfound).unique htypes h]

end Match

end BrickLint
