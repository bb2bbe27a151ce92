import BrickLint.Proofs.Anchor.Place
import BrickLint.Proofs.Dialect.Mask
import Mathlib.Order.MinMax
import Mathlib.Order.Nat

/-!
# Regions that are blanked

The masks of a text cover three kinds of regions. A block of assembly runs from its word to the
brace that closes it, or to the end of the text. A reference mark stands behind a type. A default
value stands in the parameters of a header, from its equals sign to the next comma.
-/

namespace BrickLint.Dialect

open Text

/-- Whether the character in front of a place is a word character: the last one of `front`, of which
`afterWord` tells if `front` is empty. -/
def endsInWord (afterWord : Bool) (front : List Char) : Bool :=
  front.getLast?.elim afterWord isWordChar

/-- What stands behind the first character. -/
theorem endsInWord_cons (afterWord : Bool) (c : Char) (front : List Char) :
    endsInWord afterWord (c :: front) = endsInWord (isWordChar c) front := by
  rw [endsInWord, endsInWord, List.getLast?_cons]
  cases front.getLast? <;> rfl

/-- Nothing stands in front of a text. -/
theorem endsInWord_false (front : List Char) :
    endsInWord false front = front.getLast?.any isWordChar := by
  rw [endsInWord]
  cases front.getLast? <;> rfl

/-- An offset of a text lies in a part that continues no word, where `p` holds of the part and of
what stands behind it. `afterWord` tells that a word character stands in front of the text. -/
def LiesIn (p : List Char → List Char → Prop) (afterWord : Bool) (text : List Char)
    (offset : Nat) : Prop :=
  ∃ front part rest, text = front ++ (part ++ rest) ∧ endsInWord afterWord front = false ∧
    p part rest ∧ ∃ i < part.length, offset = front.length + i

/-- A part at the start of a text. -/
theorem LiesIn.start {p : List Char → List Char → Prop} {part rest : List Char}
    (hpart : p part rest) {k : Nat} (hk : k < part.length) : LiesIn p false (part ++ rest) k :=
  ⟨[], part, rest, rfl, rfl, hpart, k, hk, (Nat.zero_add k).symm⟩

/-- A part behind the first character of a text. -/
theorem LiesIn.cons {p : List Char → List Char → Prop} {c : Char} {text : List Char} {k : Nat}
    (h : LiesIn p (isWordChar c) text k) (afterWord : Bool) :
    LiesIn p afterWord (c :: text) (k + 1) := by
  obtain ⟨front, part, rest, rfl, hfront, hpart, i, hi, rfl⟩ := h
  exact ⟨c :: front, part, rest, rfl, by rwa [endsInWord_cons], hpart, i, hi,
    by rw [List.length_cons, Nat.add_right_comm]⟩

/-- Text that closes `depth` open braces, in front of `rest`: no smaller part of it does so, and if
it does not do so itself then nothing follows it. -/
structure ClosesBraces (depth : Nat) (text rest : List Char) : Prop where
  /-- Before the end some brace is open. -/
  goesOn : ∀ front back, text = front ++ back → back ≠ [] →
    front.count '}' < depth + front.count '{'
  /-- At the end no brace is open, unless the end is that of the whole text. -/
  ends : text.count '}' = depth + text.count '{' ∨ rest = []

/-- A block of assembly in front of `rest`: the word, blanks, and a part in braces. -/
def IsAssembly (block rest : List Char) : Prop :=
  ∃ blanks inner, block = "asm".toList ++ (blanks ++ '{' :: inner) ∧
    (∀ c ∈ blanks, isBlank c = true) ∧ ClosesBraces 1 inner rest

/-- An offset of a text lies in a block of assembly, whose word continues no other one. -/
def InAssembly (text : List Char) (offset : Nat) : Prop :=
  LiesIn IsAssembly false text offset

/-- Without the word there is no block of assembly. -/
theorem InAssembly.word_infix {text : List Char} {offset : Nat} (h : InAssembly text offset) :
    "asm".toList <:+: text := by
  obtain ⟨front, _, rest, rfl, _, ⟨blanks, inner, rfl, _⟩, _⟩ := h
  exact ⟨front, blanks ++ '{' :: inner ++ rest, by simp⟩

/-- A character in front of text that closes braces, if as many braces are open behind it. -/
theorem ClosesBraces.cons {depth later : Nat} {c : Char} {text rest : List Char}
    (h : ClosesBraces later text rest) (hdepth : 0 < depth)
    (hlater : depth + [c].count '{' = later + [c].count '}') :
    ClosesBraces depth (c :: text) rest where
  goesOn front back hsplit hback := by
    cases front with
    | nil => simpa using hdepth
    | cons d front =>
      obtain ⟨rfl, htext⟩ := List.cons.inj hsplit
      have hfront := h.goesOn front back htext hback
      rw [← List.singleton_append, List.count_append, List.count_append]
      omega
  ends := by
    rw [← List.singleton_append, List.count_append, List.count_append]
    exact h.ends.imp_left fun heven => by omega

/-- The length of braces is that of the text that closes them. -/
theorem exists_closesBraces {depth : Nat} (hdepth : 0 < depth) (text : List Char) :
    ∃ block rest, text = block ++ rest ∧ bracedLength depth text = block.length ∧
      ClosesBraces depth block rest := by
  induction text generalizing depth with
  | nil =>
    refine ⟨[], [], rfl, rfl, ⟨fun front back hsplit hback => ?_, .inr rfl⟩⟩
    exact absurd (List.append_eq_nil_iff.mp hsplit.symm).2 hback
  | cons c text ih =>
    -- With one more character, as many braces stay open as are to be closed behind it.
    have hlater : ∀ {later}, 0 < later → depth + [c].count '{' = later + [c].count '}' →
        ∃ block rest, c :: text = block ++ rest ∧
          bracedLength later text + 1 = block.length ∧ ClosesBraces depth block rest := by
      intro later hpos hcount
      obtain ⟨block, rest, rfl, hlength, hcloses⟩ := ih hpos
      exact ⟨c :: block, rest, rfl, by rw [hlength, List.length_cons],
        hcloses.cons hdepth hcount⟩
    rw [bracedLength]
    split
    case isTrue hopen => exact hlater (Nat.succ_pos _) (by subst hopen; simp)
    case isFalse hopen =>
    split
    case isTrue hclose =>
      subst hclose
      split
      case isTrue hlast =>
        refine ⟨['}'], text, rfl, rfl, ⟨fun front back hsplit hback => ?_, .inl ?_⟩⟩
        · cases front with
          | nil => simpa using hdepth
          | cons d front =>
            have hnil := (List.cons.inj hsplit).2
            exact absurd (List.append_eq_nil_iff.mp hnil.symm).2 hback
        · obtain rfl : depth = 1 := by omega
          rfl
      case isFalse hlast => exact hlater (by omega) (by simp; omega)
    case isFalse hclose => exact hlater hdepth (by simp [hopen, hclose])

/-- What is found as a block of assembly is one. -/
theorem isAssembly_of_asmLength? {text : List Char} {length : Nat}
    (h : asmLength? text = some length) :
    ∃ block rest, text = block ++ rest ∧ block.length = length ∧ IsAssembly block rest := by
  obtain ⟨behind, hbehind, h⟩ := Option.bind_eq_some_iff.mp h
  obtain rfl := isPrefixOf?_eq_some_iff.mp hbehind
  dsimp only at h
  split at h
  case isFalse => simp at h
  case isTrue hopen =>
    obtain rfl := Option.some.inj h
    obtain ⟨braced, hbraced⟩ := List.head?_eq_some_iff.mp hopen
    obtain ⟨inner, rest, rfl, hlength, hcloses⟩ := exists_closesBraces Nat.one_pos braced
    have hsplit : behind = behind.takeWhile isBlank ++ '{' :: (inner ++ rest) := by
      rw [← hbraced]
      exact List.takeWhile_append_dropWhile.symm
    have hblanks : ∀ c ∈ behind.takeWhile isBlank, isBlank c = true :=
      List.all_eq_true.mp List.all_takeWhile
    refine ⟨"asm".toList ++ (behind.takeWhile isBlank ++ '{' :: inner), rest, ?_, ?_,
      behind.takeWhile isBlank, inner, rfl, hblanks, hcloses⟩
    · conv_lhs => rw [hsplit]
      simp
    · rw [hbraced, bracedLength, if_pos rfl, hlength]
      conv_rhs => rw [hsplit]
      simp
      omega

/-- Whatever is covered as assembly belongs to the first `inside` characters or to a block. -/
theorem asmMask_cases {afterWord : Bool} {inside : Nat} {text : List Char} {k : Nat}
    (h : (asmMask afterWord inside text)[k]? = some true) :
    k < inside ∨ LiesIn IsAssembly afterWord text k := by
  induction text generalizing afterWord inside k with
  | nil => simp [asmMask] at h
  | cons c text ih =>
    rw [asmMask] at h
    have hfound : ∀ {k}, k < (if afterWord then 0 else (asmLength? (c :: text)).getD 0) →
        LiesIn IsAssembly afterWord (c :: text) k := by
      intro k hk
      cases afterWord with
      | true => simp at hk
      | false =>
        cases hlength : asmLength? (c :: text) with
        | none => simp [hlength] at hk
        | some length =>
          obtain ⟨block, rest, hsplit, rfl, hblock⟩ := isAssembly_of_asmLength? hlength
          rw [hsplit]
          exact .start hblock (by simpa [hlength] using hk)
    cases k with
    | zero =>
      have hpos := of_decide_eq_true (Option.some.inj h)
      exact (lt_max_iff.mp hpos).imp_right hfound
    | succ k =>
      rcases ih h with hk | hblock
      · exact (lt_max_iff.mp (Nat.add_lt_of_lt_sub hk)).imp_right hfound
      · exact .inr (hblock.cons afterWord)

/-- Whatever is covered as assembly lies in a block of assembly. -/
theorem inAssembly_of_asmMask {text : List Char} {k : Nat}
    (h : (asmMask false 0 text)[k]? = some true) : InAssembly text k :=
  (asmMask_cases h).resolve_left (Nat.not_lt_zero k)

/-- An offset of a text is that of a reference mark: an ampersand behind a type and blanks. -/
def IsReferenceMark (text : List Char) (offset : Nat) : Prop :=
  ∃ front type blanks rest, text = front ++ (type.toList ++ (blanks ++ '&' :: rest)) ∧
    front.getLast?.any isWordChar = false ∧ type ∈ referenceTypes ∧
      (∀ c ∈ blanks, isBlank c = true) ∧ offset = (front ++ (type.toList ++ blanks)).length

/-- A reference mark is an ampersand, which belongs to no word. -/
theorem IsReferenceMark.getElem? {text : List Char} {offset : Nat}
    (h : IsReferenceMark text offset) : text[offset]? = some '&' := by
  obtain ⟨front, type, blanks, rest, rfl, _, _, _, rfl⟩ := h
  simp [← List.append_assoc]

/-- A text ends in a type and blanks. -/
def EndsInType (text : List Char) : Prop :=
  ∃ front type blanks, text = front ++ (type.toList ++ blanks) ∧
    front.getLast?.any isWordChar = false ∧ type ∈ referenceTypes ∧ ∀ c ∈ blanks, isBlank c = true

/-- More blanks behind a type. -/
theorem EndsInType.concat {text : List Char} {c : Char} (h : EndsInType text)
    (hc : isBlank c = true) : EndsInType (text ++ [c]) := by
  obtain ⟨front, type, blanks, rfl, hfront, htype, hblanks⟩ := h
  refine ⟨front, type, blanks ++ [c], by simp, hfront, htype, fun d hd => ?_⟩
  rcases List.mem_append.mp hd with hd | hd
  · exact hblanks d hd
  · rwa [List.mem_singleton.mp hd]

/-- What is covered as a reference mark is one. If `afterType` is set, the text up to the end of the
word that goes on behind `before` ends in a type and blanks. -/
theorem isReferenceMark_append {before text : List Char} {afterWord afterType : Bool} {k : Nat}
    (hbefore : before.getLast?.any isWordChar = afterWord)
    (htype : afterType = true →
      EndsInType (before ++ if afterWord then text.takeWhile isWordChar else []))
    (h : (referenceMask afterWord afterType text)[k]? = some true) :
    IsReferenceMark (before ++ text) (before.length + k) := by
  induction text generalizing before afterWord afterType k with
  | nil => simp [referenceMask] at h
  | cons c text ih =>
    have hlater : ∀ {afterWord afterType k},
        (before ++ [c]).getLast?.any isWordChar = afterWord → (afterType = true →
          EndsInType ((before ++ [c]) ++ if afterWord then text.takeWhile isWordChar else [])) →
        (referenceMask afterWord afterType text)[k]? = some true →
          IsReferenceMark (before ++ c :: text) (before.length + (k + 1)) := by
      intro afterWord afterType k hword htype h
      have hmark := ih hword htype h
      rw [List.append_assoc, List.length_append, List.length_singleton, Nat.add_assoc,
        Nat.add_comm 1] at hmark
      exact hmark
    rw [referenceMask] at h
    by_cases hword : isWordChar c = true
    · rw [if_pos hword] at h
      cases k with
      | zero => simp at h
      | succ k =>
        -- The word goes on to its end, or it starts here and is a type as a whole.
        refine hlater (by simpa using hword) (fun hafter => ?_) h
        rw [if_pos rfl, List.append_assoc, List.singleton_append,
          ← List.takeWhile_cons_of_pos hword]
        cases afterWord with
        | true => exact htype hafter
        | false =>
          exact ⟨before, String.ofList ((c :: text).takeWhile isWordChar), [], by simp, hbefore,
            by simpa using hafter, by simp⟩
    · rw [if_neg hword] at h
      have hends : afterType = true → EndsInType before := by
        intro hafter
        simpa [List.takeWhile_cons_of_neg hword] using htype hafter
      have hlast : (before ++ [c]).getLast?.any isWordChar = false := by simpa using hword
      by_cases hblank : isBlank c = true
      · rw [if_pos hblank] at h
        cases k with
        | zero => simp at h
        | succ k =>
          exact hlater hlast (fun hafter => by simpa using (hends hafter).concat hblank) h
      · rw [if_neg hblank] at h
        cases k with
        | zero =>
          simp only [List.getElem?_cons_zero, Option.some.injEq, Bool.and_eq_true,
            beq_iff_eq] at h
          obtain ⟨rfl, hafter⟩ := h
          obtain ⟨front, type, blanks, rfl, hfront, hmem, hblanks⟩ := hends hafter
          exact ⟨front, type, blanks, text, by simp, hfront, hmem, hblanks, rfl⟩
        | succ k => exact hlater hlast (by simp) h

/-- What is covered as a reference mark is one. -/
theorem isReferenceMark_of_referenceMask {text : List Char} {k : Nat}
    (h : (referenceMask false false text)[k]? = some true) : IsReferenceMark text k := by
  simpa using @isReferenceMark_append [] text false false k rfl (by simp) h

/-- A row of a text, between what stands in front of it and behind it. -/
structure IsRowBetween (front row rest : List Char) : Prop where
  /-- A row holds no line feed. -/
  noFeed : '\n' ∉ row
  /-- It starts the text or a new row. -/
  starts : front = [] ∨ ∃ init, front = init ++ ['\n']
  /-- It ends the text or stands in front of a line feed. -/
  ends : rest = [] ∨ ∃ tail, rest = '\n' :: tail

/-- A column of a row lies in a default value: the row has a header, and in its parameter list, in
front of a closing parenthesis, an equals sign and then no comma stand up to the column. -/
def IsValueColumn (row : List Char) (column : Nat) : Prop :=
  ∃ header before value behind,
    matchHeader? (variableTypes ++ functionTypes) row = some header ∧
      row.drop header.stop = before ++ '=' :: (value ++ behind) ∧
        ')' ∉ before ∧ ')' ∉ value ∧ ',' ∉ value ∧
          column = header.stop + (before.length + value.length)

/-- An offset of a text lies in a default value of a row. -/
def InDefaultValue (text : List Char) (offset : Nat) : Prop :=
  ∃ front row rest, text = front ++ (row ++ rest) ∧ IsRowBetween front row rest ∧
    ∃ column < row.length, IsValueColumn row column ∧ offset = front.length + column

/-- A default value has an equals sign. -/
theorem InDefaultValue.exists_equals {text : List Char} {offset : Nat}
    (h : InDefaultValue text offset) : ∃ k ≤ offset, text[k]? = some '=' := by
  obtain ⟨front, row, rest, rfl, _, column, hcolumn, hvalue, rfl⟩ := h
  obtain ⟨header, before, value, behind, _, hdrop, _, _, _, rfl⟩ := hvalue
  refine ⟨front.length + (header.stop + before.length), by omega, ?_⟩
  have hequals : row[header.stop + before.length]? = some '=' := by
    rw [← List.getElem?_drop, hdrop]
    simp
  rw [List.getElem?_append_right (by omega), Nat.add_sub_cancel_left,
    List.getElem?_append_left (by omega), hequals]

/-- Whatever is covered as a value has an equals sign and then no comma in front of it, or it goes
on with a value that started before the text. -/
theorem valueMask_cases {inside : Bool} {text : List Char} {k : Nat}
    (h : (valueMask inside text)[k]? = some true) :
    (inside = true ∧ ∃ value behind, text = value ++ behind ∧ ',' ∉ value ∧ k + 1 = value.length) ∨
      ∃ before value behind, text = before ++ '=' :: (value ++ behind) ∧ ',' ∉ value ∧
        k = before.length + value.length := by
  induction text generalizing inside k with
  | nil => simp [valueMask] at h
  | cons c text ih =>
    rw [valueMask] at h
    cases k with
    | zero =>
      have hinside := Option.some.inj h
      by_cases hequals : c = '='
      · exact .inr ⟨[], [], text, by simp [hequals], by simp, rfl⟩
      · simp only [beq_eq_false_iff_ne.mpr hequals, Bool.false_or, Bool.and_eq_true,
          bne_iff_ne] at hinside
        exact .inl ⟨hinside.1, [c], text, rfl, by simpa using hinside.2.symm, rfl⟩
    | succ k =>
      rcases ih h with ⟨hinside, value, behind, rfl, hvalue, hk⟩ |
        ⟨before, value, behind, rfl, hvalue, rfl⟩
      · by_cases hequals : c = '='
        · exact .inr ⟨[], value, behind, by simp [hequals], hvalue, by simpa using hk⟩
        · simp only [beq_eq_false_iff_ne.mpr hequals, Bool.false_or, Bool.and_eq_true,
            bne_iff_ne] at hinside
          refine .inl ⟨hinside.1, c :: value, behind, rfl, ?_, by rw [List.length_cons, hk]⟩
          simpa using ⟨hinside.2.symm, hvalue⟩
      · exact .inr ⟨c :: before, value, behind, rfl, hvalue, by simp; omega⟩

/-- Whatever is covered in a row lies in a default value. -/
theorem isValueColumn_of_defaultMask {row : List Char} {column : Nat}
    (h : (defaultMask row)[column]? = some true) : IsValueColumn row column := by
  cases hheader : matchHeader? (variableTypes ++ functionTypes) row with
  | none =>
    rw [defaultMask, hheader] at h
    simp [List.getElem?_replicate] at h
  | some header =>
    rw [defaultMask, hheader] at h
    dsimp only at h
    generalize hparameters : (row.drop header.stop).takeWhile (· != ')') = parameters at h
    obtain ⟨behind, hrow⟩ : ∃ behind, row.drop header.stop = parameters ++ behind :=
      ⟨_, hparameters ▸ List.takeWhile_append_dropWhile.symm⟩
    have hparen : ')' ∉ parameters := by
      intro hmem
      rw [← hparameters] at hmem
      exact absurd (List.all_eq_true.mp List.all_takeWhile _ hmem) (by decide)
    rw [List.append_assoc, List.getElem?_append] at h
    split at h
    case isTrue hfront => simp [List.getElem?_replicate] at h
    case isFalse hfront =>
    rw [List.length_replicate] at h hfront
    rw [List.getElem?_append] at h
    split at h
    case isFalse hbehind => simp [List.getElem?_replicate] at h
    case isTrue hinside =>
    rcases valueMask_cases h with ⟨hstarted, _⟩ | ⟨before, value, later, rfl, hvalue, hcolumn⟩
    · cases hstarted
    · simp only [List.mem_append, List.mem_cons, not_or] at hparen
      exact ⟨header, before, value, later ++ behind, hheader, by simpa using hrow, hparen.1,
        hparen.2.2.1, hvalue, by omega⟩

/-- Whatever is covered in a text is covered in one of its rows. -/
theorem exists_row_of_defaultMask {lines : List (List Char)} {k : Nat}
    (hlines : ∀ row ∈ lines, '\n' ∉ row)
    (h : ([false].intercalate (lines.map defaultMask))[k]? = some true) :
    ∃ front row rest, ['\n'].intercalate lines = front ++ (row ++ rest) ∧
      IsRowBetween front row rest ∧
        ∃ column, (defaultMask row)[column]? = some true ∧ k = front.length + column := by
  induction lines generalizing k with
  | nil => simp [List.intercalate] at h
  | cons row lines ih =>
    obtain ⟨hrow, hlines⟩ := List.forall_mem_cons.mp hlines
    cases lines with
    | nil =>
      exact ⟨[], row, [], by simp [List.intercalate], ⟨hrow, .inl rfl, .inl rfl⟩, k,
        by simpa [List.intercalate] using h, by simp⟩
    | cons next lines =>
      rw [List.map_cons, List.map_cons, List.intercalate_cons_cons, List.append_assoc,
        List.getElem?_append] at h
      rw [List.intercalate_cons_cons]
      split at h
      case isTrue =>
        exact ⟨[], row, '\n' :: ['\n'].intercalate (next :: lines), by simp,
          ⟨hrow, .inl rfl, .inr ⟨_, rfl⟩⟩, k, h, by simp⟩
      case isFalse hk =>
        rw [length_defaultMask] at h hk
        obtain ⟨later, rfl⟩ := Nat.exists_eq_add_of_le (Nat.le_of_not_lt hk)
        rw [Nat.add_sub_cancel_left] at h
        cases later with
        | zero => simp at h
        | succ later =>
          obtain ⟨front, found, rest, htext, hfound, column, hcolumn, rfl⟩ :=
            ih hlines (by simpa using h)
          refine ⟨row ++ '\n' :: front, found, rest, by rw [htext]; simp,
            ⟨hfound.noFeed, .inr ?_, hfound.ends⟩, column, hcolumn, by simp; omega⟩
          rcases hfound.starts with rfl | ⟨init, rfl⟩
          · exact ⟨row, rfl⟩
          · exact ⟨row ++ '\n' :: init, by simp⟩

/-- Whatever is covered as a default value lies in one. -/
theorem inDefaultValue_of_defaultMasks {text : List Char} {k : Nat}
    (h : (defaultMasks text)[k]? = some true) : InDefaultValue text k := by
  obtain ⟨front, row, rest, htext, hrow, column, hcolumn, hk⟩ :=
    exists_row_of_defaultMask (fun _ => newline_not_mem_of_mem_rows) h
  rw [rows, List.intercalate_splitOn] at htext
  refine ⟨front, row, rest, htext, hrow, column, ?_, isValueColumn_of_defaultMask hcolumn, hk⟩
  rw [← length_defaultMask]
  exact (List.getElem?_eq_some_iff.mp hcolumn).1

/-- Whatever is blanked lies in a block of assembly, is a reference mark, or lies in a default
value. -/
theorem region_of_blankMask {text : List Char} {k : Nat} (h : (blankMask text)[k]? = some true) :
    InAssembly text k ∨ IsReferenceMark text k ∨ InDefaultValue text k := by
  rw [blankMask, List.getElem?_zipWith_eq_some] at h
  obtain ⟨asm, other, hasm, hother, h⟩ := h
  obtain ⟨mark, value, hmark, hvalue, rfl⟩ := List.getElem?_zipWith_eq_some.mp hother
  rcases Bool.or_eq_true_iff.mp h with rfl | h
  · exact .inl (inAssembly_of_asmMask hasm)
  rcases Bool.or_eq_true_iff.mp h with rfl | rfl
  · exact .inr (.inl (isReferenceMark_of_referenceMask hmark))
  · exact .inr (.inr (inDefaultValue_of_defaultMasks hvalue))

end BrickLint.Dialect
