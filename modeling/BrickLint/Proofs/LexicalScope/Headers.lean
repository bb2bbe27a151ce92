import BrickLint.Proofs.Header
import BrickLint.Proofs.LexicalScope.Printed

/-!
# Function headers of a program

In a printed program the header pattern fits the headers of its functions and nothing else, so the
function table holds exactly the functions of the program.
-/

namespace BrickLint.LexicalScope

open Text

/-- None of the words stands at the start of a text with a blank behind it. -/
def StartsWithout (words : List String) (cs : List Char) : Prop :=
  ∀ word ∈ words, ∀ rest, cs = word.toList ++ rest → rest.head?.any isBlank = false

/-- A text that starts with another identifier starts without the words. -/
theorem startsWithout_identifier {words : List String} {name : String} {cs : List Char}
    (hname : isIdentifier name = true) (hcs : cs.head?.any isIdentChar = false)
    (hwords : ∀ word ∈ words, isIdentifier word = true) (hmem : name ∉ words) :
    StartsWithout words (name.toList ++ cs) := by
  intro word hword rest heq
  by_contra hblank
  have hrest := head?_isIdentChar_of_blank (eq_true_of_ne_false hblank)
  exact hmem (identifier_unique hname (hwords word hword) hcs hrest heq ▸ hword)

/-- A text that starts with a mark starts without the words. -/
theorem startsWithout_mark {words : List String} {c : Char} {cs : List Char}
    (hc : isIdentChar c = false) (hwords : ∀ word ∈ words, isIdentifier word = true) :
    StartsWithout words (c :: cs) := by
  intro word hword rest heq
  obtain ⟨d, ds, hchars, hstart, _⟩ := (isIdentifier_iff word).mp (hwords word hword)
  rw [hchars, List.cons_append] at heq
  rw [(List.cons.inj heq).1, isIdentChar_of_isIdentStart hstart] at hc
  cases hc

/-- There is no way to pass over a word that is not there. -/
theorem afterWordAndBlanks_eq_nil {words : List String} {cs : List Char}
    (h : StartsWithout words cs) : afterWordAndBlanks false words cs = [] := by
  unfold afterWordAndBlanks
  cases hafter : afterWord? words cs with
  | none => rfl
  | some rest =>
    obtain ⟨word, hword, hprefix⟩ := List.exists_of_findSome?_eq_some hafter
    have hblank := h word hword rest (isPrefixOf?_eq_some_iff.mp hprefix)
    have hcount : rest.takeWhile isBlank = [] := by
      cases rest with
      | nil => rfl
      | cons c rest =>
        have hc : isBlank c = false := by simpa using hblank
        simp [hc]
    simp [afterBlankRun, hcount]

/-- Without modifiers there is one way to pass over them. -/
theorem afterModifiers_eq {cs : List Char} (h : StartsWithout modifierWords cs) (fuel : Nat) :
    afterModifiers false fuel cs = [cs] := by
  cases fuel with
  | zero => rfl
  | succ fuel => simp [afterModifiers, afterWordAndBlanks_eq_nil h]

/-- Without the word there is one way to pass over an optional word. -/
theorem afterOptional_eq {words : List String} {cs : List Char} (h : StartsWithout words cs) :
    afterOptional false words cs = [cs] := by
  simp [afterOptional, afterWordAndBlanks_eq_nil h]

/-- The types of a program without types of its own. -/
def basicTypes : List String :=
  variableTypes ++ functionTypes

/-- The basic types are identifiers. -/
theorem isIdentifier_of_mem_basicTypes : ∀ type ∈ basicTypes, isIdentifier type = true := by
  decide

/-- The basic types are keywords. -/
theorem mem_keywordNames_of_mem_basicTypes :
    ∀ type ∈ basicTypes, type ∈ Catalog.keywordNames := by
  decide

/-- There are basic types. -/
theorem basicTypes_ne_nil : basicTypes ≠ [] := by
  decide

/-- Words that may stand before the type of a header. -/
def headerWords : List String :=
  modifierWords ++ tagWords ++ signWords

/-- A header without words before its type starts with the type. -/
theorem matchHeader?_eq {line : List Char} (h : StartsWithout headerWords (stripStart line)) :
    matchHeader? basicTypes line =
      (afterTypes (longestFirst basicTypes) (stripStart line)).findSome?
        (headerName? line.length) := by
  have hmodifiers : StartsWithout modifierWords (stripStart line) :=
    fun word hword => h word (by simp [headerWords, hword])
  have htags : StartsWithout tagWords (stripStart line) :=
    fun word hword => h word (by simp [headerWords, hword])
  have hsigns : StartsWithout signWords (stripStart line) :=
    fun word hword => h word (by simp [headerWords, hword])
  have hblanks := any_longestFirst_eq_false isIdentifier_of_mem_basicTypes basicTypes_ne_nil
  simp only [matchHeader?, hblanks, afterBlankRun_zero, List.flatMap_cons, List.flatMap_nil,
    List.append_nil, afterModifiers_eq hmodifiers, afterOptional_eq htags, afterOptional_eq hsigns]

/-- Behind an identifier at the start of a text there is a type only if the identifier is one. -/
theorem mem_afterTypes {name : String} {cs rest : List Char} (hname : isIdentifier name = true)
    (hcs : cs.head?.any isIdentChar = false)
    (h : rest ∈ afterTypes (longestFirst basicTypes) (name.toList ++ cs)) :
    name ∈ basicTypes ∧ rest = cs := by
  obtain ⟨chars, hchars, hrest⟩ := List.mem_filterMap.mp h
  obtain ⟨type, htype, rfl⟩ := (mem_longestFirst basicTypes_ne_nil).mp hchars
  obtain ⟨behind, hprefix, hend⟩ := Option.bind_eq_some_iff.mp hrest
  have hidentifier := isIdentifier_of_mem_basicTypes type htype
  have heq := isPrefixOf?_eq_some_iff.mp hprefix
  split at hend
  case isTrue htypeEnd =>
    have hbehind := head?_isIdentChar ((isTypeEnd_iff hidentifier behind).mp htypeEnd)
    obtain rfl := identifier_unique hname hidentifier hcs hbehind heq
    exact ⟨htype, (Option.some.inj hend).symm.trans (List.append_cancel_left heq).symm⟩
  case isFalse => cases hend

/-- A type at the start of a text is passed over. -/
theorem mem_afterTypes_of_mem {name : String} (hname : name ∈ basicTypes) {cs : List Char}
    (hcs : cs.head?.any isWordChar = false) :
    cs ∈ afterTypes (longestFirst basicTypes) (name.toList ++ cs) := by
  have htried := (mem_longestFirst basicTypes_ne_nil).mpr ⟨name, hname, rfl⟩
  refine List.mem_filterMap.mpr ⟨name.toList, htried, ?_⟩
  have hend := (isTypeEnd_iff (isIdentifier_of_mem_basicTypes name hname) cs).mpr hcs
  rw [isPrefixOf?_eq_some_iff.mpr rfl, Option.bind_some, if_pos hend]

/-- Behind a mark at the start of a text there is no type. -/
theorem afterTypes_mark {c : Char} (hc : isIdentChar c = false) (cs : List Char) :
    afterTypes (longestFirst basicTypes) (c :: cs) = [] := by
  rw [List.eq_nil_iff_forall_not_mem]
  intro rest hrest
  obtain ⟨chars, hchars, hrest⟩ := List.mem_filterMap.mp hrest
  obtain ⟨type, htype, rfl⟩ := (mem_longestFirst basicTypes_ne_nil).mp hchars
  obtain ⟨behind, hprefix, _⟩ := Option.bind_eq_some_iff.mp hrest
  obtain ⟨d, ds, hd, hstart, _⟩ :=
    (isIdentifier_iff type).mp (isIdentifier_of_mem_basicTypes type htype)
  have heq := isPrefixOf?_eq_some_iff.mp hprefix
  rw [hd, List.cons_append] at heq
  rw [(List.cons.inj heq).1, isIdentChar_of_isIdentStart hstart] at hc
  cases hc

/-- An identifier behind a type names a function if a parenthesis follows. -/
theorem headerName?_identifier {name : String} (hname : isIdentifier name = true)
    {behind : List Char} (hbehind : behind.head?.any isIdentChar = false) (length : Nat) :
    headerName? length (' ' :: (name.toList ++ behind)) =
      (afterChar? '(' (stripStart behind)).map fun rest =>
        ⟨name, length - (name.toList ++ behind).length, length - rest.length⟩ := by
  obtain ⟨c, cs, hchars, hstart, _⟩ := (isIdentifier_iff name).mp hname
  have hspace : isBlank ' ' = true := by decide
  have hblank := isBlank_of_isIdentChar (isIdentChar_of_isIdentStart hstart)
  have hstrip : stripStart (' ' :: (name.toList ++ behind)) = name.toList ++ behind := by
    simp [stripStart, hchars, hspace, hblank]
  have hstart : dropIndirection (dropEmptySubscripts (' ' :: (name.toList ++ behind)).length
      (name.toList ++ behind)) = name.toList ++ behind := by
    rw [hchars, List.cons_append, dropEmptySubscripts_cons (ne_of_isIdentStart hstart rfl),
      dropIndirection_cons (ne_of_isIdentStart hstart rfl) (ne_of_isIdentStart hstart rfl)]
  simp only [headerName?, hstrip, hstart, splitIdent?_identifier hname hbehind]
  cases hafter : afterChar? '(' (stripStart behind) <;> simp [hafter]

/-- The words before the type of a header are identifiers. -/
theorem isIdentifier_of_mem_headerWords : ∀ word ∈ headerWords, isIdentifier word = true := by
  decide

/-- The words before the type of a header are keywords. -/
theorem not_mem_headerWords {name : String} (hname : name ∉ Catalog.keywordNames) :
    name ∉ headerWords := by
  have hsubset : ∀ word ∈ headerWords, word ∈ Catalog.keywordNames := by decide
  exact fun hmem => hname (hsubset name hmem)

/-- A row that starts with an identifier: the header that follows if the identifier is a type. -/
theorem matchHeader?_identifier {name : String} (hname : isIdentifier name = true)
    (hwords : name ∉ headerWords) {cs : List Char} (hcs : cs.head?.any isIdentChar = false)
    (width depth : Nat) :
    matchHeader? basicTypes (margin width depth ++ (name.toList ++ cs)) =
      (afterTypes (longestFirst basicTypes) (name.toList ++ cs)).findSome?
        (headerName? (margin width depth ++ (name.toList ++ cs)).length) := by
  obtain ⟨c, rest, hchars, hblank, _⟩ := head_identifier hname cs
  have hstrip : stripStart (margin width depth ++ (name.toList ++ cs)) = name.toList ++ cs := by
    rw [hchars, stripStart_margin hblank]
  have hwithout := startsWithout_identifier hname hcs isIdentifier_of_mem_headerWords hwords
  rw [matchHeader?_eq (hstrip.symm ▸ hwithout), hstrip]

/-- A row that starts with an identifier that is no type has no header. -/
theorem matchHeader?_of_not_type {name : String} (hname : isIdentifier name = true)
    (hwords : name ∉ headerWords) (htype : name ∉ basicTypes) {cs : List Char}
    (hcs : cs.head?.any isIdentChar = false) {width depth : Nat} :
    matchHeader? basicTypes (margin width depth ++ (name.toList ++ cs)) = none := by
  rw [matchHeader?_identifier hname hwords hcs, List.findSome?_eq_none_iff]
  exact fun rest hrest => absurd (mem_afterTypes hname hcs hrest).1 htype

/-- A row that starts with a mark has no header. -/
theorem matchHeader?_mark {c : Char} (hc : isMark c = true) (width depth : Nat) :
    matchHeader? basicTypes (margin width depth ++ [c]) = none := by
  have hident := isIdentChar_of_isMark hc
  have hblank : isBlank c = false := by
    simp only [isMark, Bool.and_eq_true, Bool.not_eq_true'] at hc
    exact hc.1.1.1
  have hwithout : StartsWithout headerWords [c] :=
    startsWithout_mark hident isIdentifier_of_mem_headerWords
  have hstrip := stripStart_margin hblank width depth []
  rw [matchHeader?_eq (hstrip.symm ▸ hwithout), hstrip, afterTypes_mark hident]
  rfl

/-- The row of a declaration has no header. -/
theorem matchHeader?_declarationText {first : String} {more : List String}
    (hfirst : isIdentifier first = true) (width depth : Nat) :
    matchHeader? basicTypes (margin width depth ++ declarationText (first :: more)) = none := by
  -- Behind the type a name is recognised, but no parenthesis follows it.
  have hnames : ∃ c behind, (c = ',' ∨ c = ';') ∧
      joinNames ", " (first :: more) ++ [';'] = first.toList ++ c :: behind := by
    cases more with
    | nil => exact ⟨';', [], .inr rfl, by rw [joinNames_singleton]⟩
    | cons second more =>
      refine ⟨',', ' ' :: (joinNames ", " (second :: more) ++ [';']), .inl rfl, ?_⟩
      rw [joinNames_cons_cons, List.append_assoc, List.append_assoc]
      rfl
  obtain ⟨c, behind, hc, hnames⟩ := hnames
  have hident : isIdentChar c = false := by rcases hc with rfl | rfl <;> decide
  have hblank : isBlank c = false := by rcases hc with rfl | rfl <;> decide
  have hparen : c ≠ '(' := by rcases hc with rfl | rfl <;> decide
  rw [declarationText_eq, hnames, matchHeader?_identifier (by decide) (by decide) rfl,
    List.findSome?_eq_none_iff]
  intro rest hrest
  rw [(mem_afterTypes (by decide) rfl hrest).2,
    headerName?_identifier hfirst (by simpa using hident)]
  simp [stripStart, hblank, afterChar?, hparen]

/-- The header of a function is recognised. -/
theorem matchHeader?_headerText {name : String} (hname : isIdentifier name = true)
    (parameters : List String) (width depth : Nat) :
    (matchHeader? basicTypes (margin width depth ++ headerText name parameters)).map (·.name) =
      some name := by
  obtain ⟨behind, hheader⟩ : ∃ behind, headerText name parameters =
      "void".toList ++ ' ' :: (name.toList ++ '(' :: behind) := by
    cases parameters with
    | nil => exact ⟨_, headerText_nil name⟩
    | cons first more => exact ⟨_, headerText_cons name first more⟩
  rw [hheader, matchHeader?_identifier (by decide) (by decide) rfl]
  have hmem := mem_afterTypes_of_mem (by decide : "void" ∈ basicTypes)
    (by rfl : (' ' :: (name.toList ++ '(' :: behind)).head?.any isWordChar = false)
  have hfound := headerName?_identifier hname
    (by rfl : ('(' :: behind).head?.any isIdentChar = false)
  have hparen : stripStart ('(' :: behind) = '(' :: behind := by
    have hblank : isBlank '(' = false := by decide
    simp [stripStart, hblank]
  simp only [hparen, afterChar?, if_true, Option.map_some] at hfound
  -- All ways to read the type lead to the same place, and there is one.
  generalize (margin width depth ++ _).length = length
  cases hfirst : (afterTypes (longestFirst basicTypes)
      ("void".toList ++ ' ' :: (name.toList ++ '(' :: behind))).findSome? (headerName? length) with
  | none =>
    have hnone := List.findSome?_eq_none_iff.mp hfirst _ hmem
    rw [hfound] at hnone
    cases hnone
  | some header =>
    obtain ⟨rest, hrest, hheader⟩ := List.exists_of_findSome?_eq_some hfirst
    rw [(mem_afterTypes (by decide) rfl hrest).2, hfound] at hheader
    rw [← Option.some.inj hheader]
    rfl

/-- The rows of a list of statements have no header. -/
theorem matchHeader?_of_mem_body {b : Body} (hnames : ∀ name ∈ b.names, IsName name)
    {width depth : Nat} : ∀ row ∈ b.rows width depth, matchHeader? basicTypes row = none := by
  have hword : ∀ {name}, IsName name → name ∉ basicTypes :=
    fun hname hmem => hname.not_keyword (mem_keywordNames_of_mem_basicTypes _ hmem)
  induction b generalizing depth with
  | done => simp [Body.rows]
  | declare first more rest ih =>
    simp only [Body.names, List.forall_mem_append, List.forall_mem_cons] at hnames
    simp only [Body.rows, List.forall_mem_cons]
    exact ⟨matchHeader?_declarationText hnames.1.1.identifier width depth, ih hnames.2⟩
  | assign target source rest ih =>
    simp only [Body.names, List.forall_mem_cons] at hnames
    simp only [Body.rows, List.forall_mem_cons]
    refine ⟨?_, ih hnames.2.2⟩
    rw [assignmentText_eq]
    exact matchHeader?_of_not_type hnames.1.identifier (not_mem_headerWords hnames.1.not_keyword)
      (hword hnames.1) rfl
  | block body rest ihbody ihrest =>
    simp only [Body.names, List.forall_mem_append] at hnames
    simp only [Body.rows, List.cons_append, List.forall_mem_cons, List.forall_mem_append]
    exact ⟨matchHeader?_mark (by decide) _ _, ihbody hnames.1, matchHeader?_mark (by decide) _ _,
      ihrest hnames.2⟩
  | loop counter body rest ihbody ihrest =>
    simp only [Body.names, List.cons_append, List.forall_mem_cons, List.forall_mem_append] at hnames
    simp only [Body.rows, List.cons_append, List.forall_mem_cons, List.forall_mem_append]
    refine ⟨?_, ihbody hnames.2.1, matchHeader?_mark (by decide) _ _, ihrest hnames.2.2⟩
    rw [loopText_eq]
    exact matchHeader?_of_not_type (by decide) (by decide) (by decide) rfl

/-- Lines of code are rows. -/
theorem text_mem_of_mem_codeLines {line : Nat} {rows : List (List Char)} {code : CodeLine}
    (h : code ∈ codeLines line rows) : code.text ∈ rows := by
  induction rows generalizing line with
  | nil => cases h
  | cons row rows ih =>
    rcases List.mem_cons.mp h with rfl | h
    · exact List.mem_cons_self
    · exact List.mem_cons_of_mem _ (ih h)

/-- Rows without headers declare no functions. -/
theorem filterMap_codeLines_eq_nil {rows : List (List Char)}
    (h : ∀ row ∈ rows, matchHeader? basicTypes row = none) (line : Nat) :
    (codeLines line rows).filterMap (functionOfLine? basicTypes) = [] := by
  rw [List.filterMap_eq_nil_iff]
  intro code hcode
  rw [functionOfLine?, h _ (text_mem_of_mem_codeLines hcode)]
  rfl

/-- The functions that the rows of a program declare. -/
theorem map_name_functions {p : Program} (hnames : ∀ name ∈ p.names, IsName name)
    (hfunctions : ∀ name ∈ p.functionNames, IsName name) (width line : Nat) :
    ((codeLines line (p.rows width)).filterMap (functionOfLine? basicTypes)).map (·.name) =
      p.functionNames := by
  induction p generalizing line with
  | nil => rfl
  | cons item rest ih =>
    have hitem : ∀ name ∈ item.names, IsName name :=
      fun name hname => hnames name (List.mem_append_left _ hname)
    have hrest : ∀ name ∈ Program.names rest, IsName name :=
      fun name hname => hnames name (List.mem_append_right _ hname)
    change ((codeLines line (item.rows width ++ Program.rows width rest)).filterMap _).map _ = _
    rw [codeLines_append, List.filterMap_append, List.map_append]
    cases item with
    | declare first more =>
      have hrow : ∀ row ∈ Item.rows width (.declare first more),
          matchHeader? basicTypes row = none := by
        intro row hrow
        rw [List.mem_singleton.mp hrow]
        exact matchHeader?_declarationText (hitem first List.mem_cons_self).identifier 0 0
      rw [filterMap_codeLines_eq_nil hrow, ih hrest hfunctions]
      rfl
    | function name parameters body =>
      simp only [Item.names, List.forall_mem_append] at hitem
      have hheader := matchHeader?_headerText (hfunctions name List.mem_cons_self).identifier
        parameters 0 0
      obtain ⟨header, hmatch, hname⟩ := Option.map_eq_some_iff.mp hheader
      have hrows : ∀ row ∈ body.rows width 1 ++ [['}']], matchHeader? basicTypes row = none := by
        intro row hrow
        rcases List.mem_append.mp hrow with hrow | hrow
        · exact matchHeader?_of_mem_body hitem.2 row hrow
        · rw [List.mem_singleton.mp hrow]
          exact matchHeader?_mark (by decide) 0 0
      have hfirst : functionOfLine? basicTypes ⟨line, headerText name parameters, []⟩ =
          some ⟨header.name, line, header.column, false,
            header.isPrototype (headerText name parameters)⟩ := by
        rw [functionOfLine?]
        exact congrArg (Option.map _) hmatch
      rw [ih hrest fun other hother => hfunctions other (List.mem_cons_of_mem _ hother), Item.rows,
        List.cons_append, codeLines, List.filterMap_cons_some hfirst,
        filterMap_codeLines_eq_nil hrows]
      simp [hname, Program.functionNames, Item.function?]

/-- Adding a function with a new name. -/
theorem add_of_new (catalog : Catalog) (config : Config) {table : FunctionTable}
    {decl : FunctionDecl}
    (hnew : ∀ old ∈ table.functions, old.name ≠ decl.name) :
    (table.add catalog config decl).functions = table.functions ++ [decl] ∧
      ∀ f ∈ (table.add catalog config decl).findings, f ∈ table.findings ∨ f.isError = false := by
  have hfind : table.find? decl.name = none := by
    simpa [FunctionTable.find?, List.find?_eq_none] using hnew
  unfold FunctionTable.add
  rw [hfind]
  simp only [FunctionTable.addFirst]
  split
  · refine ⟨rfl, fun f hf => ?_⟩
    rcases List.mem_append.mp hf with hf | hf
    · exact .inl hf
    · rw [List.mem_singleton.mp hf]
      exact .inr rfl
  · exact ⟨rfl, fun f hf => .inl hf⟩

/-- Functions with different names are all put into the table, and nothing is wrong with them. -/
theorem foldl_add_eq (catalog : Catalog) (config : Config) (decls : List FunctionDecl)
    (table : FunctionTable)
    (hnodup : ((table.functions ++ decls).map (·.name)).Nodup)
    (hfindings : ∀ f ∈ table.findings, f.isError = false) :
    (decls.foldl (FunctionTable.add catalog config) table).functions = table.functions ++ decls ∧
      ∀ f ∈ (decls.foldl (FunctionTable.add catalog config) table).findings, f.isError = false := by
  induction decls generalizing table with
  | nil => simpa using hfindings
  | cons decl rest ih =>
    have hnew : ∀ old ∈ table.functions, old.name ≠ decl.name := by
      rw [List.map_append, List.nodup_append] at hnodup
      intro old hold
      exact hnodup.2.2 old.name (List.mem_map_of_mem hold) decl.name (by simp)
    obtain ⟨hadd, hwarn⟩ := add_of_new catalog config hnew
    have hnodup' : (((table.add catalog config decl).functions ++ rest).map (·.name)).Nodup := by
      simpa [hadd] using hnodup
    have hrest := ih (table.add catalog config decl) hnodup' fun f hf =>
      (hwarn f hf).elim (hfindings f) id
    rw [hadd, List.append_assoc, List.singleton_append] at hrest
    exact hrest

/-- The function table of a program holds its functions, and nothing is wrong with them. -/
theorem collectFunctions_eq {p : Program} (hnodup : p.functionNames.Nodup)
    (hnames : ∀ name ∈ p.names, IsName name) (hfunctions : ∀ name ∈ p.functionNames, IsName name)
    (catalog : Catalog) (config : Config) (width : Nat) :
    (∀ name, (collectFunctions catalog config [] (codeLines 0 (p.rows width))).contains name =
        p.functionNames.contains name) ∧
      ∀ f ∈ (collectFunctions catalog config [] (codeLines 0 (p.rows width))).findings,
        f.isError = false := by
  have hmap := map_name_functions hnames hfunctions width 0
  have htypes : variableTypes ++ functionTypes ++ [] = basicTypes := by simp [basicTypes]
  unfold collectFunctions
  rw [htypes]
  obtain ⟨htable, hfindings⟩ := foldl_add_eq catalog config
    ((codeLines 0 (p.rows width)).filterMap (functionOfLine? basicTypes)) {}
    (by simpa [hmap] using hnodup) (by simp)
  refine ⟨fun name => ?_, hfindings⟩
  rw [FunctionTable.contains, htable, List.nil_append, ← hmap, List.contains_eq_any_beq,
    List.any_map]
  congr 1
  funext decl
  exact BEq.comm

end BrickLint.LexicalScope
