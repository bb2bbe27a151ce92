import BrickLint.Proofs.LexicalScope.Simulation

/-!
# The text of a program

What the passes before the walk see in a printed program: its rows are all lines of code outside
conditional branches, it defines no types, its functions are those of the headers, and no braced
initializer is indexed.
-/

namespace BrickLint.LexicalScope

open Text

/-- A word that announces no type. -/
def IsPlainWord (name : String) : Prop :=
  name ∉ tagWords ∧ name ≠ "typedef"

/-- Keywords apart, all words are plain. -/
theorem isPlainWord_of_not_mem {name : String} (h : name ∉ Catalog.keywordNames) :
    IsPlainWord name := by
  have htags : ∀ word ∈ tagWords, word ∈ Catalog.keywordNames := by decide
  have htypedef : "typedef" ∈ Catalog.keywordNames := by decide
  exact ⟨fun hmem => h (htags name hmem), fun heq => h (heq ▸ htypedef)⟩

/-- No identifier of a text announces a type. -/
def OnlyPlainWords (cs : List Char) : Prop :=
  ∀ column, ∀ token ∈ tokensFrom 0 column cs, token.kind = .ident → IsPlainWord token.text

namespace OnlyPlainWords

variable {cs : List Char}

/-- An empty text has no words. -/
theorem nil : OnlyPlainWords [] := by
  intro column token hmem
  simp [tokensFrom] at hmem

/-- A space is no word. -/
theorem space (h : OnlyPlainWords cs) : OnlyPlainWords (' ' :: cs) := by
  intro column token hmem
  rw [tokensFrom_space] at hmem
  exact h _ token hmem

/-- The margin of a row has no words. -/
theorem margin (width depth : Nat) (h : OnlyPlainWords cs) :
    OnlyPlainWords (margin width depth ++ cs) := by
  unfold LexicalScope.margin
  induction width * depth with
  | zero => exact h
  | succ n ih => exact ih.space

/-- A mark is no word. -/
theorem mark {c : Char} (hc : isMark c = true) (h : OnlyPlainWords cs) :
    OnlyPlainWords (c :: cs) := by
  intro column token hmem hkind
  rw [tokensFrom_of_isMark hc] at hmem
  rcases List.mem_cons.mp hmem with rfl | hmem
  · cases hkind
  · exact h _ token hmem hkind

/-- A digit is no word. -/
theorem digit {c : Char} (hc : isDigitChar c = true) (hblank : isBlank c = false)
    (hstart : isIdentStart c = false) (hcs : cs.head?.any isNumberChar = false)
    (h : OnlyPlainWords cs) : OnlyPlainWords (c :: cs) := by
  intro column token hmem hkind
  rw [tokensFrom_digit hblank hstart hc hcs] at hmem
  rcases List.mem_cons.mp hmem with rfl | hmem
  · cases hkind
  · exact h _ token hmem hkind

/-- An identifier is one word. -/
theorem identifier {name : String} (hname : isIdentifier name = true) (hword : IsPlainWord name)
    (hcs : cs.head?.any isIdentChar = false) (h : OnlyPlainWords cs) :
    OnlyPlainWords (name.toList ++ cs) := by
  intro column token hmem hkind
  rw [tokensFrom_identifier hname hcs] at hmem
  rcases List.mem_cons.mp hmem with rfl | hmem
  · exact hword
  · exact h _ token hmem hkind

end OnlyPlainWords

/-- No braced initializer of a text is indexed. -/
def HasNoIndexed (cs : List Char) : Prop :=
  ∀ p, initializerFindings p cs = []

/-- Without an equals sign there is no initializer. -/
theorem HasNoIndexed.append (before : List Char) {cs : List Char} (hbefore : '=' ∉ before)
    (h : HasNoIndexed cs) : HasNoIndexed (before ++ cs) := by
  induction before with
  | nil => exact h
  | cons c before ih =>
    obtain ⟨hc, hrest⟩ := List.ne_and_not_mem_of_not_mem_cons hbefore
    intro p
    rw [List.cons_append, initializerFindings, ih hrest, if_neg (fun hand => hc hand.1.symm)]

/-- A name or a number behind an equals sign is no braced initializer. -/
theorem HasNoIndexed.equals {c : Char} {cs : List Char} (hblank : isBlank c = false)
    (hbrace : c ≠ '{') (h : HasNoIndexed (c :: cs)) : HasNoIndexed ('=' :: ' ' :: c :: cs) := by
  intro p
  have hspace : isBlank ' ' = true := by decide
  have hindexed : isIndexedInitializer (' ' :: c :: cs) = false := by
    simp [isIndexedInitializer, stripStart, hspace, hblank, afterChar?, hbrace]
  have hrest : HasNoIndexed ([' '] ++ c :: cs) := .append _ (by decide) h
  rw [initializerFindings, hindexed]
  simpa using hrest _

/-- Characters of a row that belong to no identifier are in no name. -/
theorem not_mem_toList {name : String} (hname : isIdentifier name = true) {c : Char}
    (hc : isIdentChar c = false) : c ∉ name.toList := by
  intro hmem
  rw [isIdentChar_of_mem hname hmem] at hc
  cases hc

/-- Characters of joined names belong to a name or to the separator. -/
theorem mem_joinNames {separator : String} {names : List String} {c : Char}
    (h : c ∈ joinNames separator names) :
    c ∈ separator.toList ∨ ∃ name ∈ names, c ∈ name.toList := by
  induction names with
  | nil => simp [joinNames, List.intercalate] at h
  | cons first rest ih =>
    cases rest with
    | nil =>
      rw [joinNames_singleton] at h
      exact .inr ⟨first, List.mem_cons_self, h⟩
    | cons second more =>
      rw [joinNames_cons_cons, List.mem_append, List.mem_append] at h
      rcases h with h | h | h
      · exact .inr ⟨first, List.mem_cons_self, h⟩
      · exact .inl h
      · rcases ih h with h | ⟨name, hname, h⟩
        · exact .inl h
        · exact .inr ⟨name, List.mem_cons_of_mem _ hname, h⟩

/-- Characters that are neither in an identifier nor in the separator are not in joined names. -/
theorem not_mem_joinNames {separator : String} {names : List String}
    (hnames : ∀ name ∈ names, isIdentifier name = true) {c : Char} (hc : isIdentChar c = false)
    (hseparator : c ∉ separator.toList) : c ∉ joinNames separator names := by
  intro hmem
  rcases mem_joinNames hmem with h | ⟨name, hname, h⟩
  · exact hseparator h
  · exact not_mem_toList (hnames name hname) hc h

/-- What a row holds behind its margin: code that no pass before the walk takes note of. -/
structure IsPlain (content : List Char) : Prop where
  /-- It starts with a character that is neither blank nor a hash. -/
  head : ∃ c rest, content = c :: rest ∧ isBlank c = false ∧ c ≠ '#'
  /-- It ends in a character that is neither blank nor a backslash. -/
  last : ∃ c before, content = before ++ [c] ∧ isBlank c = false ∧ c ≠ '\\'
  /-- It is a single row. -/
  row : '\n' ∉ content
  /-- It announces no type. -/
  words : OnlyPlainWords content
  /-- It has no indexed initializer. -/
  noIndexed : ∀ {rest}, HasNoIndexed rest → HasNoIndexed (content ++ rest)

/-- An identifier starts with a character that is neither blank nor a hash. -/
theorem head_identifier {name : String} (hname : isIdentifier name = true) (cs : List Char) :
    ∃ c rest, name.toList ++ cs = c :: rest ∧ isBlank c = false ∧ c ≠ '#' := by
  obtain ⟨c, rest, hchars, hstart, _⟩ := (isIdentifier_iff name).mp hname
  refine ⟨c, rest ++ cs, by rw [hchars, List.cons_append],
    isBlank_of_isIdentChar (isIdentChar_of_isIdentStart hstart), ?_⟩
  rintro rfl
  exact absurd hstart (by decide)

/-- A brace is a plain content. -/
theorem isPlain_brace {c : Char} (hc : c = '{' ∨ c = '}') : IsPlain [c] := by
  rcases hc with rfl | rfl
  all_goals
    refine ⟨⟨_, [], rfl, by decide, by decide⟩, ⟨_, [], rfl, by decide, by decide⟩, by decide,
      ?_, ?_⟩
    · exact .mark (by decide) .nil
    · exact fun h => .append _ (by decide) h

/-- A name that is given to a variable or a function. -/
structure IsName (name : String) : Prop where
  /-- It is an identifier. -/
  identifier : isIdentifier name = true
  /-- It is no keyword. -/
  not_keyword : name ∉ Catalog.keywordNames

/-- The words of joined names are plain. -/
theorem onlyPlainWords_joinNames {separator : String} {tail cs : List Char} {first : String}
    {more : List String} (hnames : ∀ name ∈ first :: more, IsName name)
    (hseparator : separator.toList = ',' :: tail)
    (htail : ∀ {cs}, OnlyPlainWords cs → OnlyPlainWords (tail ++ cs))
    (hcs : cs.head?.any isIdentChar = false) (h : OnlyPlainWords cs) :
    OnlyPlainWords (joinNames separator (first :: more) ++ cs) := by
  have hfirst := hnames first List.mem_cons_self
  have hword := isPlainWord_of_not_mem hfirst.not_keyword
  induction more generalizing first with
  | nil =>
    rw [joinNames_singleton]
    exact .identifier hfirst.identifier hword hcs h
  | cons second more ih =>
    have hmore : ∀ name ∈ second :: more, IsName name :=
      fun name hname => hnames name (List.mem_cons_of_mem _ hname)
    have hsecond := hmore second List.mem_cons_self
    have hrest := ih hmore hsecond (isPlainWord_of_not_mem hsecond.not_keyword)
    rw [joinNames_cons_cons, hseparator, List.append_assoc, List.append_assoc, List.cons_append]
    exact .identifier hfirst.identifier hword rfl (.mark (by decide) (htail hrest))

/-- The word for whole numbers is plain. -/
theorem OnlyPlainWords.int {cs : List Char} (hcs : cs.head?.any isIdentChar = false)
    (h : OnlyPlainWords cs) : OnlyPlainWords ("int".toList ++ cs) :=
  .identifier (by decide) ⟨by decide, by decide⟩ hcs h

/-- A declaration is a plain content. -/
theorem isPlain_declarationText {first : String} {more : List String}
    (hnames : ∀ name ∈ first :: more, IsName name) :
    IsPlain (declarationText (first :: more)) := by
  have habsent : ∀ c, isIdentChar c = false → c ∉ ", ".toList →
      c ∉ joinNames ", " (first :: more) :=
    fun c => not_mem_joinNames fun name hname => (hnames name hname).identifier
  rw [declarationText_eq]
  constructor
  · exact ⟨'i', _, rfl, by decide, by decide⟩
  · exact ⟨';', "int".toList ++ ' ' :: joinNames ", " (first :: more), by simp, by decide,
      by decide⟩
  · simp [habsent '\n' (by decide) (by decide)]
  · exact .int rfl (.space (onlyPlainWords_joinNames hnames rfl .space (by decide)
      (.mark (by decide) .nil)))
  · intro rest hrest
    refine .append _ ?_ hrest
    simp [habsent '=' (by decide) (by decide)]

/-- An assignment is a plain content. -/
theorem isPlain_assignmentText {target source : String} (htarget : IsName target)
    (hsource : IsName source) : IsPlain (assignmentText target source) := by
  have hwords : ∀ {name cs}, IsName name → cs.head?.any isIdentChar = false →
      OnlyPlainWords cs → OnlyPlainWords (name.toList ++ cs) :=
    fun hname => .identifier hname.identifier (isPlainWord_of_not_mem hname.not_keyword)
  rw [assignmentText_eq]
  constructor
  · exact head_identifier htarget.identifier _
  · exact ⟨';', target.toList ++ ' ' :: '=' :: ' ' :: source.toList, by simp, by decide, by decide⟩
  · simp [not_mem_toList htarget.identifier (c := '\n') (by decide),
      not_mem_toList hsource.identifier (c := '\n') (by decide)]
  · exact hwords htarget rfl (.space (.mark (by decide) (.space (hwords hsource rfl
      (.mark (by decide) .nil)))))
  · intro rest hrest
    obtain ⟨c, cs, hchars, hstart, _⟩ := (isIdentifier_iff source).mp hsource.identifier
    have hblank := isBlank_of_isIdentChar (isIdentChar_of_isIdentStart hstart)
    have hbrace : c ≠ '{' := by
      rintro rfl
      exact absurd hstart (by decide)
    have hvalue : HasNoIndexed (source.toList ++ (';' :: rest)) :=
      .append _ (not_mem_toList hsource.identifier (by decide))
        (.append [';'] (by decide) hrest)
    rw [hchars] at hvalue ⊢
    have hsplit : target.toList ++ ' ' :: '=' :: ' ' :: (c :: cs ++ [';']) ++ rest =
        (target.toList ++ [' ']) ++ '=' :: ' ' :: c :: (cs ++ (';' :: rest)) := by simp
    rw [hsplit]
    refine .append _ ?_ (.equals hblank hbrace hvalue)
    simp [not_mem_toList htarget.identifier (c := '=') (by decide)]

/-- The header of a loop is a plain content. -/
theorem isPlain_loopText {counter : String} (hcounter : IsName counter) :
    IsPlain (loopText counter) := by
  have hwords : ∀ {cs}, cs.head?.any isIdentChar = false → OnlyPlainWords cs →
      OnlyPlainWords (counter.toList ++ cs) :=
    .identifier hcounter.identifier (isPlainWord_of_not_mem hcounter.not_keyword)
  have hfor : ∀ {cs}, cs.head?.any isIdentChar = false → OnlyPlainWords cs →
      OnlyPlainWords ("for".toList ++ cs) := .identifier (by decide) ⟨by decide, by decide⟩
  have hequals := not_mem_toList hcounter.identifier (c := '=') (by decide)
  rw [loopText_eq]
  constructor
  · exact ⟨'f', _, rfl, by decide, by decide⟩
  · refine ⟨'{', "for".toList ++ ' ' :: '(' :: ("int".toList ++ ' ' :: (counter.toList ++
      ' ' :: '=' :: ' ' :: '0' :: ';' :: ' ' :: (counter.toList ++ ' ' :: '<' :: ' ' :: '1' ::
      ';' :: ' ' :: (counter.toList ++ ['+', '+', ')', ' '])))), ?_, by decide, by decide⟩
    simp
  · simp [not_mem_toList hcounter.identifier (c := '\n') (by decide)]
  · apply hfor rfl
    apply OnlyPlainWords.space
    apply OnlyPlainWords.mark (by decide)
    apply OnlyPlainWords.int rfl
    apply OnlyPlainWords.space
    apply hwords rfl
    apply OnlyPlainWords.space
    apply OnlyPlainWords.mark (by decide)
    apply OnlyPlainWords.space
    apply OnlyPlainWords.digit (by decide) (by decide) (by decide) rfl
    apply OnlyPlainWords.mark (by decide)
    apply OnlyPlainWords.space
    apply hwords rfl
    apply OnlyPlainWords.space
    apply OnlyPlainWords.mark (by decide)
    apply OnlyPlainWords.space
    apply OnlyPlainWords.digit (by decide) (by decide) (by decide) rfl
    apply OnlyPlainWords.mark (by decide)
    apply OnlyPlainWords.space
    apply hwords rfl
    apply OnlyPlainWords.mark (by decide)
    apply OnlyPlainWords.mark (by decide)
    apply OnlyPlainWords.mark (by decide)
    apply OnlyPlainWords.space
    exact .mark (by decide) .nil
  · intro rest hrest
    have hend : HasNoIndexed ((['0', ';', ' '] ++ counter.toList ++
        [' ', '<', ' ', '1', ';', ' '] ++ counter.toList ++ ['+', '+', ')', ' ', '{']) ++
          rest) := by
      refine .append _ ?_ hrest
      simp [hequals]
    have hsplit : "for".toList ++ ' ' :: '(' :: ("int".toList ++ ' ' :: (counter.toList ++
        ' ' :: '=' :: ' ' :: '0' :: ';' :: ' ' :: (counter.toList ++ ' ' :: '<' :: ' ' :: '1' ::
        ';' :: ' ' :: (counter.toList ++ ['+', '+', ')', ' ', '{'])))) ++ rest =
        ("for".toList ++ ' ' :: '(' :: ("int".toList ++ ' ' :: (counter.toList ++ [' ']))) ++
          '=' :: ' ' :: '0' :: ([';', ' '] ++ counter.toList ++ [' ', '<', ' ', '1', ';', ' '] ++
            counter.toList ++ ['+', '+', ')', ' ', '{'] ++ rest) := by simp
    rw [hsplit]
    refine .append _ ?_ (.equals (by decide) (by decide) hend)
    simp [hequals]

/-- The header of a function is a plain content. -/
theorem isPlain_headerText {name : String} (hname : IsName name) {parameters : List String}
    (hnames : ∀ name ∈ parameters, IsName name) : IsPlain (headerText name parameters) := by
  have hvoid : ∀ {cs}, cs.head?.any isIdentChar = false → OnlyPlainWords cs →
      OnlyPlainWords ("void".toList ++ cs) := .identifier (by decide) ⟨by decide, by decide⟩
  have hword : ∀ {cs}, cs.head?.any isIdentChar = false → OnlyPlainWords cs →
      OnlyPlainWords (name.toList ++ cs) :=
    .identifier hname.identifier (isPlainWord_of_not_mem hname.not_keyword)
  have hend : OnlyPlainWords [')', ' ', '{'] := .mark (by decide) (.space (.mark (by decide) .nil))
  cases parameters with
  | nil =>
    rw [headerText_nil]
    constructor
    · exact ⟨'v', _, rfl, by decide, by decide⟩
    · exact ⟨'{', "void".toList ++ ' ' :: (name.toList ++ ['(', ')', ' ']), by simp, by decide,
        by decide⟩
    · simp [not_mem_toList hname.identifier (c := '\n') (by decide)]
    · exact hvoid rfl (.space (hword rfl (.mark (by decide) hend)))
    · intro rest hrest
      refine .append _ ?_ hrest
      simp [not_mem_toList hname.identifier (c := '=') (by decide)]
  | cons first more =>
    have habsent : ∀ c, isIdentChar c = false → c ∉ ", int ".toList →
        c ∉ joinNames ", int " (first :: more) :=
      fun c => not_mem_joinNames fun name hname => (hnames name hname).identifier
    rw [headerText_cons]
    constructor
    · exact ⟨'v', _, rfl, by decide, by decide⟩
    · refine ⟨'{', "void".toList ++ ' ' :: (name.toList ++ '(' :: ("int".toList ++ ' ' ::
        (joinNames ", int " (first :: more) ++ [')', ' ']))), ?_, by decide, by decide⟩
      simp
    · simp [not_mem_toList hname.identifier (c := '\n') (by decide),
        habsent '\n' (by decide) (by decide)]
    · refine hvoid rfl (.space (hword rfl (.mark (by decide) (.int rfl (.space ?_)))))
      exact onlyPlainWords_joinNames hnames rfl (fun h => .space (.int rfl (.space h))) (by decide)
        hend
    · intro rest hrest
      refine .append _ ?_ hrest
      simp [not_mem_toList hname.identifier (c := '=') (by decide),
        habsent '=' (by decide) (by decide)]

/-- A row of a printed program: a margin and a plain content. -/
def IsPlainRow (row : List Char) : Prop :=
  ∃ width depth content, row = margin width depth ++ content ∧ IsPlain content

/-- The rows of a list of statements are plain. -/
theorem isPlainRow_of_mem_body {b : Body} (hnames : ∀ name ∈ b.names, IsName name)
    {width depth : Nat} : ∀ row ∈ b.rows width depth, IsPlainRow row := by
  have hopening : IsPlain ['{'] := isPlain_brace (.inl rfl)
  have hclosing : IsPlain ['}'] := isPlain_brace (.inr rfl)
  induction b generalizing depth with
  | done => simp [Body.rows]
  | declare first more rest ih =>
    simp only [Body.names, List.forall_mem_append] at hnames
    simp only [Body.rows, List.forall_mem_cons]
    exact ⟨⟨_, _, _, rfl, isPlain_declarationText hnames.1⟩, ih hnames.2⟩
  | assign target source rest ih =>
    simp only [Body.names, List.forall_mem_cons] at hnames
    simp only [Body.rows, List.forall_mem_cons]
    exact ⟨⟨_, _, _, rfl, isPlain_assignmentText hnames.1 hnames.2.1⟩, ih hnames.2.2⟩
  | block body rest ihbody ihrest =>
    simp only [Body.names, List.forall_mem_append] at hnames
    simp only [Body.rows, List.cons_append, List.forall_mem_cons, List.forall_mem_append]
    exact ⟨⟨_, _, _, rfl, hopening⟩, ihbody hnames.1, ⟨_, _, _, rfl, hclosing⟩, ihrest hnames.2⟩
  | loop counter body rest ihbody ihrest =>
    simp only [Body.names, List.cons_append, List.forall_mem_cons, List.forall_mem_append] at hnames
    simp only [Body.rows, List.cons_append, List.forall_mem_cons, List.forall_mem_append]
    exact ⟨⟨_, _, _, rfl, isPlain_loopText hnames.1⟩, ihbody hnames.2.1, ⟨_, _, _, rfl, hclosing⟩,
      ihrest hnames.2.2⟩

/-- The rows of a program are plain. -/
theorem isPlainRow_of_mem {p : Program} (hnames : ∀ name ∈ p.names, IsName name)
    (hfunctions : ∀ name ∈ p.functionNames, IsName name) (width : Nat) :
    ∀ row ∈ p.rows width, IsPlainRow row := by
  induction p with
  | nil => simp [Program.rows]
  | cons item rest ih =>
    have hrest : ∀ name ∈ Program.names rest, IsName name :=
      fun name hname => hnames name (List.mem_append_right _ hname)
    have hitem : ∀ name ∈ item.names, IsName name :=
      fun name hname => hnames name (List.mem_append_left _ hname)
    intro row hrow
    rcases List.mem_append.mp hrow with hrow | hrow
    · cases item with
      | declare first more =>
        rw [List.mem_singleton.mp hrow]
        exact ⟨0, 0, _, rfl, isPlain_declarationText hitem⟩
      | function name parameters body =>
        simp only [Item.names, List.forall_mem_append] at hitem
        simp only [Item.rows, List.cons_append, List.mem_cons, List.mem_append,
          List.not_mem_nil, or_false] at hrow
        rcases hrow with rfl | hrow | rfl
        · exact ⟨0, 0, _, rfl, isPlain_headerText (hfunctions name List.mem_cons_self) hitem.1⟩
        · exact isPlainRow_of_mem_body hitem.2 row hrow
        · exact ⟨0, 0, _, rfl, isPlain_brace (.inr rfl)⟩
    · refine ih hrest (fun name hname => hfunctions name ?_) row hrow
      cases item with
      | declare first more => exact hname
      | function other parameters body => exact List.mem_cons_of_mem _ hname

/-- The margin of a row is stripped off. -/
theorem stripStart_margin {c : Char} (hc : isBlank c = false) (width depth : Nat)
    (cs : List Char) : stripStart (margin width depth ++ c :: cs) = c :: cs := by
  have hmargin : ∀ d ∈ margin width depth, isBlank d = true := by
    intro d hd
    rw [List.eq_of_mem_replicate hd]
    decide
  rw [stripStart, List.dropWhile_append_of_pos hmargin]
  simp [hc]

namespace IsPlainRow

variable {row : List Char}

/-- Without its margin a row starts with something other than a hash. -/
theorem stripStart (h : IsPlainRow row) :
    ∃ c rest, Text.stripStart row = c :: rest ∧ isBlank c = false ∧ c ≠ '#' := by
  obtain ⟨width, depth, content, rfl, hcontent⟩ := h
  obtain ⟨c, rest, rfl, hblank, hhash⟩ := hcontent.head
  exact ⟨c, rest, stripStart_margin hblank width depth rest, hblank, hhash⟩

/-- A row ends in something other than a blank or a backslash. -/
theorem last (h : IsPlainRow row) :
    ∃ c before, row = before ++ [c] ∧ isBlank c = false ∧ c ≠ '\\' := by
  obtain ⟨width, depth, content, rfl, hcontent⟩ := h
  obtain ⟨c, before, rfl, hblank, hslash⟩ := hcontent.last
  exact ⟨c, margin width depth ++ before, (List.append_assoc _ _ _).symm, hblank, hslash⟩

/-- There is nothing to strip at the end of a row. -/
theorem stripEnd_append {before : List Char} {c : Char} (hblank : isBlank c = false) :
    stripEnd (before ++ [c]) = before ++ [c] := by
  simp [stripEnd, dropEndWhile, hblank]

/-- A row is not continued on the next line. -/
theorem endsInBackslash (h : IsPlainRow row) : endsInBackslash row = false := by
  obtain ⟨c, before, rfl, hblank, hslash⟩ := h.last
  simp [Text.endsInBackslash, stripEnd_append hblank, hslash]

/-- A row does not end in a carriage return. -/
theorem dropReturn (h : IsPlainRow row) : dropReturn row = row := by
  obtain ⟨c, before, rfl, hblank, _⟩ := h.last
  have hreturn : c ≠ '\r' := by
    rintro rfl
    exact absurd hblank (by decide)
  simp [Text.dropReturn, hreturn]

/-- Without the blanks around it a row starts with something other than a hash. -/
theorem strip (h : IsPlainRow row) : ∃ c rest, Text.strip row = c :: rest ∧ c ≠ '#' := by
  obtain ⟨c, rest, hstart, hblank, hhash⟩ := h.stripStart
  refine ⟨c, stripEnd rest, ?_, hhash⟩
  rw [Text.strip, hstart, stripEnd, stripEnd, dropEndWhile, dropEndWhile, List.reverse_cons,
    List.dropWhile_append]
  split
  case isTrue hempty => simp [hblank, List.isEmpty_iff.mp hempty]
  case isFalse => simp

/-- A row has no line feed. -/
theorem newline (h : IsPlainRow row) : '\n' ∉ row := by
  obtain ⟨width, depth, content, rfl, hcontent⟩ := h
  simp [margin, hcontent.row]

/-- A row announces no type. -/
theorem words (h : IsPlainRow row) : OnlyPlainWords row := by
  obtain ⟨width, depth, content, rfl, hcontent⟩ := h
  exact .margin width depth hcontent.words

end IsPlainRow

section

variable {lines : List (List Char)} (hlines : ∀ row ∈ lines, IsPlainRow row)

include hlines

/-- The code rows of a text in which a line feed ends every row. -/
theorem codeRows_flatMap : codeRows (lines.flatMap (· ++ ['\n'])) = lines ++ [[]] := by
  have hrows : rows (lines.flatMap (· ++ ['\n'])) = lines ++ [[]] := by
    induction lines with
    | nil => rfl
    | cons row rest ih =>
      obtain ⟨hrow, hrest⟩ := List.forall_mem_cons.mp hlines
      rw [List.flatMap_cons, List.append_assoc, List.singleton_append, rows,
        List.splitOn_append_cons_self_of_not_mem hrow.newline]
      exact congrArg (row :: ·) (ih hrest)
  rw [codeRows, hrows]
  clear hrows
  induction lines with
  | nil => rfl
  | cons row rest ih =>
    obtain ⟨hrow, hrest⟩ := List.forall_mem_cons.mp hlines
    have hdrop : dropReturns (row :: (rest ++ [[]])) =
        dropReturn row :: dropReturns (rest ++ [[]]) := by
      cases rest <;> rfl
    rw [List.cons_append, hdrop, hrow.dropReturn, ih hrest]

/-- All rows are lines of code outside conditional branches, and nothing is defined. -/
theorem layoutFrom_eq (number : Nat) :
    layoutFrom {} false number (lines ++ [[]]) = ⟨codeLines number lines, []⟩ := by
  induction lines generalizing number with
  | nil => rfl
  | cons row rest ih =>
    obtain ⟨hrow, hrest⟩ := List.forall_mem_cons.mp hlines
    obtain ⟨c, cs, hstrip, hhash⟩ := hrow.strip
    rw [List.cons_append, layoutFrom, hrow.endsInBackslash, ih hrest]
    simp [hstrip, hhash, codeLines, Conditionals.path]

end

/-- Nothing has been announced, and no type name was found. -/
structure IsIdle (s : TypeNames) : Prop where
  /-- No tag is expected. -/
  expectTag : s.expectTag = false
  /-- No enumeration is announced. -/
  pendingEnum : s.pendingEnum = false
  /-- No enumeration is open. -/
  enumDepth : s.enumDepth = none
  /-- No type definition is open. -/
  typedefDepth : s.typedefDepth = none
  /-- There is no type name. -/
  types : s.types = []
  /-- There is no enumerator. -/
  enumConstants : s.enumConstants = []

/-- A plain word announces nothing. -/
theorem IsIdle.ident {s : TypeNames} (hs : IsIdle s) (catalog : Catalog) {name : String}
    (hname : IsPlainWord name) : IsIdle (s.ident catalog name) := by
  have hident : s.ident catalog name = { s with lastIdent := some name } := by
    simp [TypeNames.ident, hs.expectTag, hname.1, hname.2, TypeNames.inEnumBody, hs.enumDepth]
  rw [hident]
  exact ⟨hs.1, hs.2, hs.3, hs.4, hs.5, hs.6⟩

/-- Punctuation announces nothing. -/
theorem IsIdle.punct {s : TypeNames} (hs : IsIdle s) (catalog : Catalog) (text : String) :
    IsIdle (s.punct catalog text) := by
  obtain ⟨htag, hpending, hdepth, htypedef, htypes, hconstants⟩ := hs
  unfold TypeNames.punct
  split
  · constructor <;> simp [hpending, hdepth, htypedef, htypes, hconstants]
  · split
    · constructor <;> simp [hpending, hdepth, htypedef, htypes, hconstants]
    · split
      · constructor <;>
          simp [TypeNames.inEnumBody, hpending, hdepth, htypedef, htypes, hconstants]
      · split
        · constructor <;>
            simp [TypeNames.endStatement, hdepth, htypedef, htypes, hconstants]
        · constructor <;> simp [hpending, hdepth, htypedef, htypes, hconstants]

/-- Plain words and punctuation announce nothing. -/
theorem IsIdle.foldl {s : TypeNames} (hs : IsIdle s) (catalog : Catalog) {tokens : List Token}
    (htokens : ∀ token ∈ tokens, token.kind = .ident → IsPlainWord token.text) :
    IsIdle (tokens.foldl (TypeNames.step catalog) s) := by
  induction tokens generalizing s with
  | nil => exact hs
  | cons token rest ih =>
    obtain ⟨htoken, hrest⟩ := List.forall_mem_cons.mp htokens
    refine ih ?_ hrest
    unfold TypeNames.step
    cases hkind : token.kind with
    | ident => exact hs.ident catalog (htoken hkind)
    | number => exact hs
    | punct => exact hs.punct catalog token.text

/-- A printed program has no type names and no enumerators. -/
theorem isIdle_collectTypeNames {lines : List (List Char)}
    (hlines : ∀ row ∈ lines, IsPlainRow row) (catalog : Catalog) :
    IsIdle (collectTypeNames catalog (lines ++ [[]])) := by
  apply IsIdle.foldl ⟨rfl, rfl, rfl, rfl, rfl, rfl⟩
  intro token hmem hkind
  obtain ⟨row, hrow, htoken⟩ := List.mem_flatMap.mp hmem
  rcases List.mem_append.mp (List.mem_of_mem_filter hrow) with hrow | hrow
  · exact (hlines row hrow).words 0 token htoken hkind
  · rw [List.mem_singleton.mp hrow] at htoken
    cases htoken

/-- A printed program has no indexed initializers. -/
theorem initializerFindings_flatMap {lines : List (List Char)}
    (hlines : ∀ row ∈ lines, IsPlainRow row) : HasNoIndexed (lines.flatMap (· ++ ['\n'])) := by
  induction lines with
  | nil => exact fun _ => rfl
  | cons row rest ih =>
    obtain ⟨⟨width, depth, content, rfl, hcontent⟩, hrest⟩ := List.forall_mem_cons.mp hlines
    rw [List.flatMap_cons, List.append_assoc, List.append_assoc]
    refine .append _ ?_ (hcontent.noIndexed (.append ['\n'] (by decide) (ih hrest)))
    simp [margin]

end BrickLint.LexicalScope
