import BrickLint.Header
import BrickLint.Proofs.Token
import Mathlib.Data.List.Basic

/-!
# Reading headers

Every way to pass over the words of a header leads to an end of the line, and the name of a header
that was recognised stands at its column.
-/

namespace BrickLint

open Text

/-- What follows a text at the start of a list. -/
theorem isPrefixOf?_eq_some_iff {start cs rest : List Char} :
    start.isPrefixOf? cs = some rest ↔ cs = start ++ rest := by
  induction start generalizing cs with
  | nil => simp [List.isPrefixOf?, eq_comm]
  | cons c start ih =>
    cases cs with
    | nil => simp [List.isPrefixOf?]
    | cons d cs =>
      by_cases hcd : c = d
      · simp [List.isPrefixOf?, hcd, ih]
      · have hdc : ¬d = c := fun h => hcd h.symm
        simp [List.isPrefixOf?, hcd, hdc]

/-- Dropping a run as long as it is leaves what follows it. -/
theorem drop_length_takeWhile {α : Type} (p : α → Bool) (l : List α) :
    l.drop (l.takeWhile p).length = l.dropWhile p := by
  induction l with
  | nil => rfl
  | cons a l ih =>
    by_cases ha : p a = true
    · simp [ha, ih]
    · simp [ha]

/-- Two identifiers at the start of a text that nothing continues are the same. -/
theorem identifier_unique {name word : String} {cs rest : List Char}
    (hname : isIdentifier name = true) (hword : isIdentifier word = true)
    (hcs : cs.head?.any isIdentChar = false) (hrest : rest.head?.any isIdentChar = false)
    (h : name.toList ++ cs = word.toList ++ rest) : name = word := by
  have hrun := congrArg (List.takeWhile isIdentChar) h
  rw [takeWhile_append_of_stop (fun c hc => isIdentChar_of_mem hname hc) hcs,
    takeWhile_append_of_stop (fun c hc => isIdentChar_of_mem hword hc) hrest] at hrun
  exact String.toList_inj.mp hrun

/-- An identifier that nothing continues is split off. -/
theorem splitIdent?_identifier {name : String} (hname : isIdentifier name = true)
    {behind : List Char} (hbehind : behind.head?.any isIdentChar = false) :
    splitIdent? (name.toList ++ behind) = some (name.toList, behind) := by
  obtain ⟨c, cs, hchars, hstart, _⟩ := (isIdentifier_iff name).mp hname
  have hhead : (name.toList ++ behind).head?.any isIdentStart = true := by
    simp [hchars, hstart]
  have hrun := takeWhile_append_of_stop (fun d hd => isIdentChar_of_mem hname hd) hbehind
  have hrest : (name.toList ++ behind).dropWhile isIdentChar = behind := by
    rw [← drop_length_takeWhile, hrun, List.drop_left]
  rw [splitIdent?, if_pos hhead, hrun, hrest]

/-- Where no blanks are given back, all of them are passed over. -/
theorem afterBlankRun_zero (cs : List Char) : afterBlankRun false 0 cs = [stripStart cs] := by
  simp [afterBlankRun, drop_length_takeWhile, stripStart]

/-- A type that is an identifier ends where no word character follows. -/
theorem isTypeEnd_iff {type : String} (htype : isIdentifier type = true) (rest : List Char) :
    isTypeEnd type.toList rest = true ↔ rest.head?.any isWordChar = false := by
  have hlast : type.toList.getLast?.any isWordChar = true := by
    obtain ⟨c, cs, hchars, _⟩ := (isIdentifier_iff type).mp htype
    have hmem := List.getLast_mem (hchars ▸ List.cons_ne_nil c cs : type.toList ≠ [])
    rw [List.getLast?_eq_some_getLast (hchars ▸ List.cons_ne_nil c cs)]
    exact isWordChar_of_isIdentChar (isIdentChar_of_mem htype hmem)
  simp [isTypeEnd, hlast]

/-- A blank continues no identifier. -/
theorem head?_isIdentChar_of_blank {cs : List Char} (h : cs.head?.any isBlank = true) :
    cs.head?.any isIdentChar = false := by
  cases cs with
  | nil => rfl
  | cons c cs =>
    have hc : isBlank c = true := by simpa using h
    by_contra hident
    rw [isBlank_of_isIdentChar (by simpa using hident)] at hc
    cases hc

/-- Where no word character follows, no identifier goes on. -/
theorem head?_isIdentChar {cs : List Char} (h : cs.head?.any isWordChar = false) :
    cs.head?.any isIdentChar = false := by
  cases cs with
  | nil => rfl
  | cons c cs =>
    by_contra hident
    have hword := isWordChar_of_isIdentChar (by simpa using hident : isIdentChar c = true)
    simp [hword] at h

/-- A character that starts an identifier is no other character. -/
theorem ne_of_isIdentStart {c d : Char} (hc : isIdentStart c = true) (hd : isIdentStart d = false) :
    c ≠ d := by
  rintro rfl
  exact Bool.false_ne_true (hd.symm.trans hc)

/-- Subscripts start with a square bracket. -/
theorem dropEmptySubscripts_cons {c : Char} (hc : c ≠ '[') (fuel : Nat) (cs : List Char) :
    dropEmptySubscripts fuel (c :: cs) = c :: cs := by
  cases fuel with
  | zero => rfl
  | succ fuel =>
    unfold dropEmptySubscripts
    split
    case h_1 heq => exact absurd (List.cons.inj heq).1 hc
    case h_2 => rfl

/-- The marks of indirection are the star and the ampersand. -/
theorem dropIndirection_cons {c : Char} (hstar : c ≠ '*') (hand : c ≠ '&') (cs : List Char) :
    dropIndirection (c :: cs) = c :: cs := by
  unfold dropIndirection
  split
  case h_1 heq => exact absurd (List.cons.inj heq).1 hstar
  case h_2 heq => exact absurd (List.cons.inj heq).1 hand
  case h_3 => rfl

/-- Dropping blanks leaves an end of the text. -/
theorem stripStart_suffix (cs : List Char) : stripStart cs <:+ cs :=
  List.dropWhile_suffix isBlank

/-- Passing over blanks leads to an end of the text. -/
theorem suffix_of_mem_afterBlankRun {givesBack : Bool} {least : Nat} {cs rest : List Char}
    (h : rest ∈ afterBlankRun givesBack least cs) : rest <:+ cs := by
  obtain ⟨count, _, rfl⟩ := List.mem_map.mp (List.mem_reverse.mp h)
  exact List.drop_suffix count cs

/-- Passing over a word and the blanks behind it leads to an end of the text. -/
theorem suffix_of_mem_afterWordAndBlanks {givesBack : Bool} {words : List String}
    {cs rest : List Char} (h : rest ∈ afterWordAndBlanks givesBack words cs) : rest <:+ cs := by
  unfold afterWordAndBlanks at h
  cases hword : afterWord? words cs with
  | none => simp [hword] at h
  | some behind =>
    obtain ⟨word, _, hstart⟩ := List.exists_of_findSome?_eq_some hword
    have hbehind : behind <:+ cs := ⟨word.toList, (isPrefixOf?_eq_some_iff.mp hstart).symm⟩
    rw [hword] at h
    exact (suffix_of_mem_afterBlankRun h).trans hbehind

/-- Passing over modifiers leads to an end of the text. -/
theorem suffix_of_mem_afterModifiers {givesBack : Bool} {fuel : Nat} {cs rest : List Char}
    (h : rest ∈ afterModifiers givesBack fuel cs) : rest <:+ cs := by
  induction fuel generalizing cs with
  | zero =>
    obtain rfl : rest = cs := by simpa [afterModifiers] using h
    exact List.suffix_refl rest
  | succ fuel ih =>
    rcases List.mem_append.mp h with hword | hnone
    · obtain ⟨behind, hbehind, hrest⟩ := List.mem_flatMap.mp hword
      exact (ih hrest).trans (suffix_of_mem_afterWordAndBlanks hbehind)
    · obtain rfl := List.mem_singleton.mp hnone
      exact List.suffix_refl rest

/-- Passing over an optional word leads to an end of the text. -/
theorem suffix_of_mem_afterOptional {givesBack : Bool} {words : List String}
    {cs rest : List Char} (h : rest ∈ afterOptional givesBack words cs) : rest <:+ cs := by
  rcases List.mem_append.mp h with hword | hnone
  · exact suffix_of_mem_afterWordAndBlanks hword
  · obtain rfl := List.mem_singleton.mp hnone
    exact List.suffix_refl rest

/-- Passing over a type leads to an end of the text. -/
theorem suffix_of_mem_afterTypes {types : List (List Char)} {cs rest : List Char}
    (h : rest ∈ afterTypes types cs) : rest <:+ cs := by
  obtain ⟨type, _, htype⟩ := List.mem_filterMap.mp h
  obtain ⟨behind, hstart, hend⟩ := Option.bind_eq_some_iff.mp htype
  have hbehind : behind <:+ cs := ⟨type, (isPrefixOf?_eq_some_iff.mp hstart).symm⟩
  split at hend
  · exact Option.some.inj hend ▸ hbehind
  · simp at hend

/-- Dropping empty subscripts leaves an end of the text. -/
theorem dropEmptySubscripts_suffix (fuel : Nat) (cs : List Char) :
    dropEmptySubscripts fuel cs <:+ cs := by
  fun_induction dropEmptySubscripts fuel cs with
  | case1 cs => exact List.suffix_refl cs
  | case2 fuel rest inner hinner ih =>
    have hrest : ']' :: inner <:+ rest := hinner ▸ stripStart_suffix rest
    have hinside : inner <:+ '[' :: rest :=
      ((List.suffix_cons _ _).trans hrest).trans (List.suffix_cons _ _)
    exact (ih.trans (stripStart_suffix inner)).trans hinside
  | case3 => exact List.suffix_refl _
  | case4 => exact List.suffix_refl _

/-- Dropping a mark of indirection leaves an end of the text. -/
theorem dropIndirection_suffix (cs : List Char) : dropIndirection cs <:+ cs := by
  unfold dropIndirection
  split
  · exact (stripStart_suffix _).trans (List.suffix_cons _ _)
  · exact (stripStart_suffix _).trans (List.suffix_cons _ _)
  · exact List.suffix_refl cs

/-- The identifier at the start of a text is an identifier. -/
theorem prefix_of_splitIdent? {cs name rest : List Char} (h : splitIdent? cs = some (name, rest)) :
    isIdentifier (String.ofList name) = true ∧ name <+: cs := by
  unfold splitIdent? at h
  cases cs with
  | nil => simp at h
  | cons c cs =>
    by_cases hc : isIdentStart c = true
    · have hchar := isIdentChar_of_isIdentStart hc
      obtain ⟨rfl, _⟩ : c :: cs.takeWhile isIdentChar = name ∧ _ := by simpa [hc, hchar] using h
      exact ⟨isIdentifier_takeWhile hc cs, List.cons_prefix_cons.mpr ⟨rfl, List.takeWhile_prefix _⟩⟩
    · simp [hc] at h

/-- The types that are tried are the given ones. -/
theorem mem_longestFirst {types : List String} (hne : types ≠ []) {type : List Char} :
    type ∈ longestFirst types ↔ ∃ name ∈ types, type = name.toList := by
  have hsome : types.isEmpty = false := by simpa using hne
  simp only [longestFirst, hsome, Bool.false_eq_true, if_false, List.mem_mergeSort, List.mem_map]
  exact exists_congr fun name => and_congr_right fun _ => eq_comm

/-- Types that are identifiers take no blanks over. -/
theorem any_longestFirst_eq_false {types : List String}
    (htypes : ∀ type ∈ types, isIdentifier type = true) (hne : types ≠ []) :
    ((longestFirst types).any fun type => type.head?.any isBlank) = false := by
  rw [List.any_eq_false]
  intro type htype
  obtain ⟨name, hname, rfl⟩ := (mem_longestFirst hne).mp htype
  obtain ⟨c, chars, hchars, hstart, _⟩ := (isIdentifier_iff name).mp (htypes name hname)
  simp [hchars, isBlank_of_isIdentChar (isIdentChar_of_isIdentStart hstart)]

/-- The name of a header that is read from an end of a line stands at its column. -/
theorem prefix_of_headerName? {line cs : List Char} (hcs : cs <:+ line) {header : HeaderMatch}
    (h : headerName? line.length cs = some header) :
    isIdentifier header.name = true ∧ header.name.toList <+: line.drop header.column := by
  unfold headerName? at h
  dsimp only at h
  generalize hstart : dropIndirection (dropEmptySubscripts cs.length (stripStart cs)) = start at h
  have hsuffix : start <:+ line := by
    rw [← hstart]
    exact (((dropIndirection_suffix _).trans (dropEmptySubscripts_suffix _ _)).trans
      (stripStart_suffix _)).trans hcs
  obtain ⟨⟨name, behind⟩, hsplit, h⟩ := Option.bind_eq_some_iff.mp h
  obtain ⟨rest, _, h⟩ := Option.bind_eq_some_iff.mp h
  obtain rfl := Option.some.inj h
  obtain ⟨hname, hprefix⟩ := prefix_of_splitIdent? hsplit
  refine ⟨hname, ?_⟩
  rw [String.toList_ofList, ← List.suffix_iff_eq_drop.mp hsuffix]
  exact hprefix

/-- The name of a header of a line stands at its column. -/
theorem prefix_of_matchHeader? {types : List String} {line : List Char} {header : HeaderMatch}
    (h : matchHeader? types line = some header) :
    isIdentifier header.name = true ∧ header.name.toList <+: line.drop header.column := by
  obtain ⟨cs, hcs, hname⟩ := List.exists_of_findSome?_eq_some h
  obtain ⟨afterSign, hsign, htypes⟩ := List.mem_flatMap.mp hcs
  obtain ⟨afterTag, htag, hsign⟩ := List.mem_flatMap.mp hsign
  obtain ⟨afterWords, hwords, htag⟩ := List.mem_flatMap.mp htag
  obtain ⟨afterBlanks, hblanks, hwords⟩ := List.mem_flatMap.mp hwords
  have hsuffix : cs <:+ line :=
    ((((suffix_of_mem_afterTypes htypes).trans (suffix_of_mem_afterOptional hsign)).trans
      (suffix_of_mem_afterOptional htag)).trans (suffix_of_mem_afterModifiers hwords)).trans
      (suffix_of_mem_afterBlankRun hblanks)
  exact prefix_of_headerName? hsuffix hname

end BrickLint
