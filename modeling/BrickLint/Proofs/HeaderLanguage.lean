import BrickLint.Proofs.HeaderTokens
import Mathlib

/-!
# The language of headers

A header is recognised by the texts of the tokens alone: what the pattern accepts is a language over
token texts. The name is the token before the first parenthesis, so neither the order in which the
types are tried nor the blanks between the tokens can change the result.
-/

namespace BrickLint

open Text

variable {types : List String} {texts : List String} {tokens : List Token} {line : List Char}
  {header : HeaderMatch}

/-- The texts that start as a header does: the words and marks before a name, the name and a
parenthesis. -/
def IsHeaderText (types texts : List String) : Prop :=
  ∃ words name rest, texts = words ++ name :: "(" :: rest ∧ IsHeaderStart types words ∧
    isIdentifier name = true

/-- A header takes its name and column from the token before the first parenthesis, and it ends just
behind that parenthesis. -/
def EndsAtFirstParen (tokens : List Token) (header : HeaderMatch) : Prop :=
  ∃ before name paren after, tokens = before ++ name :: paren :: after ∧
    (∀ token ∈ before ++ [name], token.text ≠ "(") ∧ paren.text = "(" ∧
    header = ⟨name.text, name.column, paren.column + 1⟩

/-- Every token is read from some character on. -/
theorem exists_lexeme_of_mem_tokensFrom {skip column : Nat} {cs : List Char} {token : Token}
    (h : token ∈ tokensFrom skip column cs) :
    ∃ c rest, token.kind = (lexeme c rest).1 ∧ token.text.toList = (lexeme c rest).2 := by
  induction cs generalizing skip column with
  | nil => simp [tokensFrom] at h
  | cons c cs ih =>
    cases skip with
    | succ remaining => exact ih h
    | zero =>
      by_cases hblank : isBlank c = true
      · exact ih (by simpa [tokensFrom, hblank] using h)
      · simp only [tokensFrom, hblank, Bool.false_eq_true, if_false] at h
        rcases List.mem_cons.mp h with rfl | hlater
        · exact ⟨c, cs, rfl, String.toList_ofList⟩
        · exact ih hlater

/-- The kind of a token is that of its first character. -/
theorem kind_of_mem_tokenize {token : Token} (h : token ∈ tokenize line) {first : Char}
    {more : List Char} (htext : token.text.toList = first :: more) :
    ∃ rest, token.kind = (lexeme first rest).1 := by
  obtain ⟨c, rest, hkind, hlexeme⟩ := exists_lexeme_of_mem_tokensFrom h
  have hhead := head?_lexeme c rest
  rw [← hlexeme, htext, List.head?_cons, Option.some.injEq] at hhead
  exact ⟨rest, hhead ▸ hkind⟩

/-- A token whose text is an identifier is an identifier token. -/
theorem kind_of_isIdentifier {token : Token} (h : token ∈ tokenize line)
    (htext : isIdentifier token.text = true) : token.kind = .ident := by
  obtain ⟨c, chars, hchars, hstart, _⟩ := (isIdentifier_iff _).mp htext
  obtain ⟨rest, hkind⟩ := kind_of_mem_tokenize h hchars
  simp [hkind, lexeme, hstart]

/-- A parenthesis is a mark. -/
theorem kind_of_text_eq_paren {token : Token} (h : token ∈ tokenize line)
    (htext : token.text = "(") : token.kind = .punct := by
  have hchars : token.text.toList = ['('] := by rw [htext]; rfl
  obtain ⟨rest, hkind⟩ := kind_of_mem_tokenize h hchars
  have hstart : isIdentStart '(' = false := by decide
  have hdigit : isDigitChar '(' = false := by decide
  simp [hkind, lexeme, hstart, hdigit]

/-- The types count by membership only. -/
theorem isHeaderStart_congr {types' : List String} (h : ∀ type, type ∈ types' ↔ type ∈ types)
    (words : List String) : IsHeaderStart types' words ↔ IsHeaderStart types words := by
  simp only [IsHeaderStart, h]

/-- The texts of tokens with a header start as a header does. -/
theorem HasHeader.isHeaderText (h : HasHeader types tokens header) :
    IsHeaderText types (tokens.map Token.text) := by
  obtain ⟨before, after, hstart, hname, _, rfl⟩ := h
  exact ⟨before.map Token.text, header.name, after.map Token.text, by simp, hstart, hname⟩

/-- A line whose token texts start as a header does has a header. -/
theorem exists_hasHeader_of_isHeaderText (h : IsHeaderText types ((tokenize line).map Token.text)) :
    ∃ header, HasHeader types (tokenize line) header := by
  obtain ⟨words, name, rest, htexts, hstart, hname⟩ := h
  obtain ⟨before, named, htokens, rfl, hnamed⟩ := List.map_eq_append_iff.mp htexts
  obtain ⟨nameToken, behind, rfl, rfl, hbehind⟩ := List.map_eq_cons_iff.mp hnamed
  obtain ⟨paren, after, rfl, hparen, rfl⟩ := List.map_eq_cons_iff.mp hbehind
  have hmem : nameToken ∈ tokenize line ∧ paren ∈ tokenize line := by simp [htokens]
  have hkind := kind_of_isIdentifier hmem.1 hname
  have hmark := kind_of_text_eq_paren hmem.2 hparen
  refine ⟨⟨nameToken.text, nameToken.column, paren.column + 1⟩, before, after, hstart, hname,
    Nat.succ_pos _, ?_⟩
  rw [htokens, Nat.add_sub_cancel, ← hkind, ← hparen, ← hmark]

/-- A header ends at the first parenthesis. -/
theorem HasHeader.endsAtFirstParen (htypes : ∀ type ∈ types, isIdentifier type = true)
    (h : HasHeader types tokens header) : EndsAtFirstParen tokens header := by
  obtain ⟨before, after, hstart, hname, hstop, rfl⟩ := h
  refine ⟨before, _, _, after, rfl, fun token htoken => ?_, rfl, ?_⟩
  · rcases List.mem_append.mp htoken with hbefore | hlast
    · exact hstart.ne_paren htypes _ (List.mem_map_of_mem hbefore)
    · rw [List.mem_singleton.mp hlast]
      exact ne_paren_of_isIdentifier hname
  · rw [Nat.sub_add_cancel hstop]

/-- The name of a header is the last text before the first parenthesis. -/
theorem EndsAtFirstParen.name_eq (h : EndsAtFirstParen tokens header) :
    some header.name = ((tokens.map Token.text).takeWhile (· != "(")).getLast? := by
  obtain ⟨before, name, paren, after, rfl, hbefore, hparen, rfl⟩ := h
  have hsplit : (before ++ name :: paren :: after).map Token.text =
      (before ++ [name]).map Token.text ++ paren.text :: after.map Token.text := by simp
  have hothers : ∀ text ∈ (before ++ [name]).map Token.text, (text != "(") = true := by
    intro text htext
    obtain ⟨token, htoken, rfl⟩ := List.mem_map.mp htext
    exact bne_iff_ne.mpr (hbefore token htoken)
  rw [hsplit, takeWhile_append_of_stop hothers (by simp [hparen])]
  simp

section Match

variable (htypes : ∀ type ∈ types, isIdentifier type = true) (hne : types ≠ [])

include htypes hne

/-- What the header pattern accepts is a language over the texts of the tokens. -/
theorem isSome_matchHeader?_iff_isHeaderText :
    (matchHeader? types line).isSome = true ↔
      IsHeaderText types ((tokenize line).map Token.text) := by
  simp only [Option.isSome_iff_exists, matchHeader?_eq_some_iff htypes hne]
  exact ⟨fun ⟨_, h⟩ => h.isHeaderText, exists_hasHeader_of_isHeaderText⟩

/-- The header that the pattern finds ends at the first parenthesis of the line. -/
theorem endsAtFirstParen_of_matchHeader? (h : matchHeader? types line = some header) :
    EndsAtFirstParen (tokenize line) header :=
  ((matchHeader?_eq_some_iff htypes hne).mp h).endsAtFirstParen htypes

/-- The order of the types does not count, nor how often a type is given. -/
theorem matchHeader?_congr_types {types' : List String}
    (h : ∀ type, type ∈ types' ↔ type ∈ types) :
    matchHeader? types' line = matchHeader? types line := by
  have htypes' : ∀ type ∈ types', isIdentifier type = true :=
    fun type htype => htypes type ((h type).mp htype)
  have hne' : types' ≠ [] := by
    obtain ⟨type, htype⟩ := List.exists_mem_of_ne_nil types hne
    exact List.ne_nil_of_mem ((h type).mpr htype)
  ext header
  rw [matchHeader?_eq_some_iff htypes' hne', matchHeader?_eq_some_iff htypes hne]
  simp only [HasHeader, isHeaderStart_congr h]

/-- Lines whose tokens have the same texts have a header of the same name, or none. -/
theorem map_name_matchHeader?_congr {line' : List Char}
    (h : (tokenize line').map Token.text = (tokenize line).map Token.text) :
    (matchHeader? types line').map (·.name) = (matchHeader? types line).map (·.name) := by
  have hboth : (matchHeader? types line').isSome = (matchHeader? types line).isSome := by
    rw [Bool.eq_iff_iff, isSome_matchHeader?_iff_isHeaderText htypes hne,
      isSome_matchHeader?_iff_isHeaderText htypes hne, h]
  cases hmatch : matchHeader? types line with
  | none => simpa [hmatch] using hboth
  | some header =>
    obtain ⟨header', hmatch'⟩ := Option.isSome_iff_exists.mp (hboth.trans (by simp [hmatch]))
    have hname := (endsAtFirstParen_of_matchHeader? htypes hne hmatch).name_eq
    have hname' := (endsAtFirstParen_of_matchHeader? htypes hne hmatch').name_eq
    rw [hmatch', Option.map_some, Option.map_some, hname, hname', h]

end Match

/-- The header pattern is a pattern over tokens: it accepts a line exactly when the token texts
start as a header does, it takes the name before the first parenthesis and ends behind that
parenthesis, and neither the order of the types nor the blanks between the tokens count. -/
theorem matchHeader?_recognises_tokens (types : List String) (line : List Char)
    (htypes : ∀ type ∈ types, isIdentifier type = true) (hne : types ≠ []) :
    ((matchHeader? types line).isSome = true ↔
      IsHeaderText types ((tokenize line).map Token.text)) ∧
    (∀ header, matchHeader? types line = some header → EndsAtFirstParen (tokenize line) header) ∧
    (∀ types', (∀ type, type ∈ types' ↔ type ∈ types) →
      matchHeader? types' line = matchHeader? types line) ∧
    ∀ line', (tokenize line').map Token.text = (tokenize line).map Token.text →
      (matchHeader? types line').map (·.name) = (matchHeader? types line).map (·.name) :=
  ⟨isSome_matchHeader?_iff_isHeaderText htypes hne,
    fun _ => endsAtFirstParen_of_matchHeader? htypes hne,
    fun _ => matchHeader?_congr_types htypes hne,
    fun _ => map_name_matchHeader?_congr htypes hne⟩

/-- With blanks between its tokens, and with a word that is itself a type before the type, a line
still starts as a header does. -/
theorem matchHeader?_recognises_tokens_unsigned :
    (∀ type ∈ ["void", "unsigned", "long"], isIdentifier type = true) ∧
      ["void", "unsigned", "long"] ≠ [] ∧
      IsHeaderText ["void", "unsigned", "long"]
        ((tokenize " static unsigned  long [ ]f (int a)".toList).map Token.text) := by
  have htypes : ∀ type ∈ ["void", "unsigned", "long"], isIdentifier type = true := by decide
  have hne : ["void", "unsigned", "long"] ≠ [] := by decide
  exact ⟨htypes, hne, (matchHeader?_recognises_tokens _ _ htypes hne).1.mp (by cbv)⟩

end BrickLint
