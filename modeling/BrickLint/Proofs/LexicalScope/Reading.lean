import BrickLint.Proofs.LexicalScope.Frames

/-!
# Reading the rows of a program

What the walk does with each kind of row that a program is printed with. Between two rows nothing is
pending: the state consists of the scopes and the findings, and all scopes are *settled*. A row then
declares variables, uses names, enters a scope or leaves one.
-/

namespace BrickLint.LexicalScope

open Text

/-- A scope of a program that has got its body: it is not the header of something that is still to
come, and its variables are ordinary ones. -/
structure IsSettled (scope : Scope) : Prop where
  /-- The body has begun. -/
  awaitingBrace : scope.awaitingBrace = false
  /-- The header is closed. -/
  headerOpen : scope.headerOpen = false
  /-- It is no structured type. -/
  kind_ne_aggregate : scope.kind ≠ .aggregate
  /-- It is no enumeration. -/
  kind_ne_enum : scope.kind ≠ .enum
  /-- It holds no assembly instructions. -/
  kind_ne_asm : scope.kind ≠ .asm

/-- All scopes of a stack are settled. -/
def Settled (s : ScopeStack) : Prop :=
  ∀ index, IsSettled (s.scopeAt index)

/-- The global scope is settled from the start. -/
theorem isSettled_root : IsSettled Scope.root :=
  ⟨rfl, rfl, by decide, by decide, by decide⟩

/-- A new scope stack is settled. -/
theorem settled_initial : Settled {} := by
  intro index
  cases index <;> exact isSettled_root

/-- The innermost scope of a settled stack is settled. -/
theorem Settled.current {s : ScopeStack} (hs : Settled s) : IsSettled s.current :=
  hs _

/-- Changes of the variables keep a stack settled. -/
theorem Settled.modifyAt {s : ScopeStack} (hs : Settled s) (index : Nat) {f : Scope → Scope}
    (hf : ∀ scope, IsSettled scope → IsSettled (f scope)) : Settled (s.modifyAt index f) := by
  intro other
  by_cases hne : index = other
  · subst hne
    by_cases hlength : index < s.arena.length
    · rw [ScopeStack.scopeAt_modifyAt_self hlength]
      exact hf _ (hs index)
    · have hnone : s.arena[index]? = none := List.getElem?_eq_none (by omega)
      simp [ScopeStack.scopeAt, ScopeStack.modifyAt, hnone, isSettled_root]
  · rw [ScopeStack.scopeAt_modifyAt_ne s hne]
    exact hs other

/-- A declaration keeps a stack settled. -/
theorem Settled.declareNew {s : ScopeStack} (hs : Settled s) (v : Variable) :
    Settled (declareNew s v) := by
  unfold LexicalScope.declareNew
  split
  · exact hs
  · exact hs.modifyAt _ fun _ h => ⟨h.1, h.2, h.3, h.4, h.5⟩

/-- A use keeps a stack settled. -/
theorem Settled.use {s : ScopeStack} (hs : Settled s) (name : String) : Settled (s.use name) := by
  unfold ScopeStack.use
  split
  · exact hs.modifyAt _ fun _ h => ⟨h.1, h.2, h.3, h.4, h.5⟩
  · exact hs

/-- Entering a settled scope keeps a stack settled. -/
theorem Settled.enter {s : ScopeStack} (hs : Settled s) {scope : Scope} (h : IsSettled scope) :
    Settled (s.enter scope) := by
  intro index
  rcases Nat.lt_trichotomy index s.arena.length with hlt | rfl | hgt
  · rw [ScopeStack.scopeAt_enter hlt]
    exact hs index
  · simpa [ScopeStack.enter, ScopeStack.scopeAt] using h
  · have hnone : (s.arena ++ [scope])[index]? = none := List.getElem?_eq_none (by simp; omega)
    simp [ScopeStack.scopeAt, ScopeStack.enter, hnone, isSettled_root]

/-- Leaving a scope keeps a stack settled. -/
theorem Settled.pop {s : ScopeStack} (hs : Settled s) : Settled s.pop :=
  hs

/-- No assembly block is open in a settled stack. -/
theorem Settled.inside_asm {s : ScopeStack} (hs : Settled s) : s.inside .asm = false := by
  simp only [ScopeStack.inside, List.any_eq_false, beq_iff_eq]
  exact fun index _ => (hs index).kind_ne_asm

/-- No enumeration is open in a settled stack. -/
theorem Settled.inside_enum {s : ScopeStack} (hs : Settled s) : s.inside .enum = false := by
  simp only [ScopeStack.inside, List.any_eq_false, beq_iff_eq]
  exact fun index _ => (hs index).kind_ne_enum

/-- Nothing is dropped from a stack whose innermost scope is to stay. -/
theorem popWhile_eq_self {s : ScopeStack} {p : Scope → Bool} (h : p s.current = false) :
    s.popWhile p = s := by
  unfold ScopeStack.popWhile
  cases hstack : s.stack with
  | nil => simp [ScopeStack.dropEntries, ← hstack]
  | cons index rest =>
    have hindex : p (s.scopeAt index) = false := by
      simpa [ScopeStack.current, ScopeStack.currentIndex, hstack] using h
    cases rest with
    | nil => simp [ScopeStack.dropEntries, ← hstack]
    | cons outer rest => simp [ScopeStack.dropEntries, hindex, ← hstack]

/-- A kind of scope that is not open is not open after entering a scope of another kind. -/
theorem inside_enter_eq_false {s : ScopeStack} (hs : s.WellFormed) {scope : Scope}
    {kind : ScopeKind} (hkind : scope.kind ≠ kind) (hinside : s.inside kind = false) :
    (s.enter scope).inside kind = false := by
  simp only [ScopeStack.inside, List.any_eq_false, beq_iff_eq] at hinside ⊢
  intro index hindex
  rcases List.mem_cons.mp hindex with rfl | hmem
  · simpa [ScopeStack.enter, ScopeStack.scopeAt] using hkind
  · rw [ScopeStack.scopeAt_enter (hs.lt_length index hmem)]
    exact hinside index hmem

/-- What a name must be like for a variable of a program to have it: an identifier that is no
keyword and has no meaning of its own. -/
structure Fits (env : Environment) (name : String) : Prop where
  /-- It is an identifier. -/
  identifier : isIdentifier name = true
  /-- It is no keyword. -/
  not_keyword : name ∉ Catalog.keywordNames
  /-- It has no meaning of its own. -/
  not_global : Walk.isGlobalName env name = false

/-- The words to which the walk gives a meaning before it looks at declarations. -/
def walkWords : List String :=
  ["asm", "struct", "union", "enum", "goto", "for"] ++ qualifierWords

/-- The words with a meaning of their own are keywords. -/
theorem not_mem_walkWords {name : String} (h : name ∉ Catalog.keywordNames) :
    name ∉ walkWords := by
  have hsubset : ∀ word ∈ walkWords, word ∈ Catalog.keywordNames := by decide
  exact fun hmem => h (hsubset name hmem)

/-- A name that is no keyword and no user type is no type. -/
theorem isType_eq_false {env : Environment} {name : String}
    (h : name ∉ Catalog.keywordNames) (huser : env.userTypes.contains name = false) :
    env.isType name = false := by
  have hvariable : ∀ word ∈ variableTypes, word ∈ Catalog.keywordNames := by decide
  have hfunction : ∀ word ∈ functionTypes, word ∈ Catalog.keywordNames := by decide
  simp only [Environment.isType, Bool.or_eq_false_iff, huser, and_true]
  constructor
  · simpa using fun hmem => h (hvariable name hmem)
  · simpa using fun hmem => h (hfunction name hmem)

namespace Fits

variable {env : Environment} {name : String}

/-- The name of a variable is no type. -/
theorem isType (h : Fits env name) : env.isType name = false := by
  have hglobal := h.not_global
  simp only [Walk.isGlobalName, Bool.or_eq_false_iff] at hglobal
  exact isType_eq_false h.not_keyword hglobal.1.2

/-- The name of a variable is no keyword of the catalog. -/
theorem isKeyword (h : Fits env name) : env.catalog.isKeyword name = false := by
  have hglobal := h.not_global
  simp only [Walk.isGlobalName, Catalog.isKnown, Bool.or_eq_false_iff] at hglobal
  exact hglobal.2.1.1

/-- A variable hides no built-in name. -/
theorem shadowing? (h : Fits env name) {v : Variable} (hv : v.name = name) :
    Walk.shadowing? env.catalog env.config v = none := by
  have hglobal := h.not_global
  simp only [Walk.isGlobalName, Catalog.isKnown, Bool.or_eq_false_iff] at hglobal
  simp [Walk.shadowing?, hv, hglobal.2.1.2, hglobal.2.2]

end Fits

section

variable (env : Environment) (code : CodeLine)

/-- Reads the rest of a line, which starts at a column and follows the token `prev`. -/
def read (prev : Option Token) (column : Nat) (cs : List Char) (w : Walk) : Walk :=
  w.tokens env code prev (tokensFrom 0 column cs)

/-- A punctuation mark of one character. -/
def isMark (c : Char) : Bool :=
  !isBlank c && !isIdentStart c && !isDigitChar c && c != '-'

/-- Marks are not part of identifiers. -/
theorem isIdentChar_of_isMark {c : Char} (hc : isMark c = true) : isIdentChar c = false := by
  simp only [isMark, Bool.and_eq_true, Bool.not_eq_true'] at hc
  by_contra hident
  have hcode := (isIdentChar_iff c).mp (by simpa using hident)
  have hstart := mt (isIdentStart_iff c).mpr (by simp [hc.1.1.2])
  have hdigit : isDigitChar c = true := by
    have hlow : 48 ≤ c.toNat := by omega
    have hhigh : c.toNat ≤ 57 := by omega
    simp [isDigitChar, digitValue?, digitZeros, hlow, hhigh]
  simp [hdigit] at hc

variable {env code} {prev : Option Token} {column : Nat} {cs : List Char} {w : Walk}

/-- At the end of a line nothing is left to read. -/
@[simp] theorem read_nil : read env code prev column [] w = w :=
  rfl

/-- Blanks are passed over. -/
theorem read_blanks (blanks : List Char) (hblanks : ∀ c ∈ blanks, isBlank c = true) :
    read env code prev column (blanks ++ cs) w =
      read env code prev (column + blanks.length) cs w := by
  rw [read, tokensFrom_blanks _ _ hblanks, read]

/-- A space is passed over. -/
theorem read_space :
    read env code prev column (' ' :: cs) w = read env code prev (column + 1) cs w := by
  rw [read, tokensFrom_space, read]

/-- The margin of a row is passed over. -/
theorem read_margin (width depth : Nat) :
    read env code prev 0 (margin width depth ++ cs) w =
      read env code prev (width * depth) cs w := by
  have hblanks : ∀ c ∈ margin width depth, isBlank c = true := by
    intro c hc
    rw [List.eq_of_mem_replicate hc]
    decide
  rw [read_blanks _ hblanks]
  simp [margin]

/-- The tokens of a text that starts with a mark. -/
theorem tokensFrom_of_isMark {c : Char} (hc : isMark c = true) :
    tokensFrom 0 column (c :: cs) =
      ⟨.punct, String.singleton c, column⟩ :: tokensFrom 0 (column + 1) cs := by
  simp only [isMark, Bool.and_eq_true, Bool.not_eq_true', bne_iff_ne] at hc
  exact tokensFrom_mark hc.1.1.1 hc.1.1.2 hc.1.2 hc.2 cs column

/-- Reading a mark. -/
theorem read_mark {c : Char} (hc : isMark c = true) :
    read env code prev column (c :: cs) w =
      read env code (some ⟨.punct, String.singleton c, column⟩) (column + 1) cs
        (w.punct code.number (String.singleton c)) := by
  rw [read, tokensFrom_of_isMark hc, Walk.tokens]
  rfl

/-- Reading a digit. -/
theorem read_digit {c : Char} (hc : isDigitChar c = true) (hblank : isBlank c = false)
    (hstart : isIdentStart c = false) (hcs : cs.head?.any isNumberChar = false) :
    read env code prev column (c :: cs) w =
      read env code (some ⟨.number, String.singleton c, column⟩) (column + 1) cs w := by
  rw [read, tokensFrom_digit hblank hstart hc hcs, Walk.tokens]
  rfl

/-- Reading an identifier that does not take the next token with it. -/
theorem read_identifier {name : String} {w' : Walk} (hname : isIdentifier name = true)
    (hcs : cs.head?.any isIdentChar = false)
    (hident : w.ident env code prev ⟨.ident, name, column⟩
      (tokensFrom 0 (column + name.length) cs) = (w', false)) :
    read env code prev column (name.toList ++ cs) w =
      read env code (some ⟨.ident, name, column⟩) (column + name.length) cs w' := by
  rw [read, tokensFrom_identifier hname hcs, Walk.tokens]
  simp only [hident]
  rfl

end

end BrickLint.LexicalScope
