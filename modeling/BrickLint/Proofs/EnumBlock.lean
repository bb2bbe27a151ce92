import BrickLint.Proofs.Bracket.OneKind
import BrickLint.Proofs.KnownFunction

/-!
# Enumerators

The names that are collected as enumerators stand in a block that the word `enum` announces. Such a
block need not be the body of an enumeration: between the word and the brace may stand anything but
a brace, a semicolon and another word that announces a structured type. Where nothing but a tag
stands there, all collected names are enumerators, and a name that is used outside the bodies is
treated as if none had been collected.
-/

namespace BrickLint

open Text

/-- The tokens that are searched for enumerators: those of all lines but directives. -/
def typeTokens (text : List Char) : List Token :=
  ((codeRows text).filter fun line => (stripStart line).head? != some '#').flatMap tokenize

/-- What stands between the word `enum` and the brace of a block that it announces. -/
structure IsEnumHead (head : List Token) : Prop where
  /-- The brace is the first one behind the word. -/
  no_brace : ∀ token ∈ head, token.mark? ≠ some (.opens .brace)
  /-- The statement has not ended. -/
  no_semicolon : ∀ token ∈ head, ¬(token.kind = .punct ∧ token.text = ";")
  /-- No structured type is announced behind the tag. -/
  no_tag : ∀ token ∈ (head.dropWhile (·.kind == .number)).tail,
    token.kind = .ident → token.text ∉ tagWords

/-- Nothing or a tag stands between the word `enum` and the brace. -/
def IsTagOnly (head : List Token) : Prop :=
  head = [] ∨ ∃ tag, tag.kind = .ident ∧ head = [tag]

/-- The tokens end in the word `enum`, something that may stand behind it, and a brace. -/
def OpensEnum (IsHead : List Token → Prop) (opening : List Token) : Prop :=
  ∃ before word head brace, opening = before ++ word :: (head ++ [brace]) ∧
    word.kind = .ident ∧ word.text = "enum" ∧ IsHead head ∧ brace.mark? = some (.opens .brace)

/-- None of the braces among the tokens closes one that was opened before them. -/
def StaysOpen (tokens : List Token) : Prop :=
  ∃ more, WellNested (marksOf .brace tokens ++ more)

/-- A name stands inside a block of an enumeration. -/
def StandsInEnum (IsHead : List Token → Prop) (tokens : List Token) (name : String) : Prop :=
  ∃ opening body item after, tokens = opening ++ (body ++ item :: after) ∧
    OpensEnum IsHead opening ∧ StaysOpen body ∧ item.kind = .ident ∧ item.text = name

/-- Every block that an enumeration announces is its body. -/
def AnnouncesBodies (tokens : List Token) : Prop :=
  ∀ opening rest, tokens = opening ++ rest → OpensEnum IsEnumHead opening →
    OpensEnum IsTagOnly opening

/-- A name inside a block stays there when more tokens follow. -/
theorem StandsInEnum.append {IsHead : List Token → Prop} {tokens : List Token} {name : String}
    (h : StandsInEnum IsHead tokens name) (more : List Token) :
    StandsInEnum IsHead (tokens ++ more) name := by
  obtain ⟨opening, body, item, after, rfl, hopening, hbody, hitem⟩ := h
  exact ⟨opening, body, item, after ++ more, by simp, hopening, hbody, hitem⟩

/-- The word, the head and the brace of a block, among the tokens. -/
theorem OpensEnum.exists_slice {IsHead : List Token → Prop} {opening : List Token}
    (h : OpensEnum IsHead opening) (rest : List Token) :
    ∃ i < (opening ++ rest).length, ∃ j < (opening ++ rest).length,
      ((opening ++ rest)[i]?.any fun word => word.kind == .ident && word.text == "enum") = true ∧
      (opening ++ rest)[j]?.bind Token.mark? = some (.opens .brace) ∧
      IsHead (((opening ++ rest).take j).drop (i + 1)) := by
  obtain ⟨before, word, head, brace, rfl, hkind, htext, hhead, hbrace⟩ := h
  have hsplit : before ++ word :: (head ++ [brace]) ++ rest =
      (before ++ word :: head) ++ brace :: rest := by simp
  rw [hsplit]
  refine ⟨before.length, by simp, (before ++ word :: head).length, by simp, ?_, ?_, ?_⟩
  · simp [hkind, htext]
  · simp only [List.getElem?_append_right (Nat.le_refl _), Nat.sub_self, List.getElem?_cons_zero,
      Option.bind_some, hbrace]
  · rw [List.take_left, ← List.drop_drop, List.drop_left]
    exact hhead

/-- Nothing but numbers is a head that waits for the tag. -/
theorem IsEnumHead.of_numbers {head : List Token} (h : ∀ token ∈ head, token.kind = .number) :
    IsEnumHead head where
  no_brace token htoken hmark := by
    have hpunct := (Token.mark?_eq_some_iff.mp hmark).1
    rw [h token htoken] at hpunct
    cases hpunct
  no_semicolon token htoken := by
    rw [h token htoken]
    simp
  no_tag := by
    have hnone : head.dropWhile (·.kind == .number) = [] :=
      List.dropWhile_eq_nil_iff.mpr fun token htoken => by simp [h token htoken]
    simp [hnone]

/-- A head goes on. A word that announces a structured type is taken for the tag if nothing but
numbers stands before it. -/
theorem IsEnumHead.concat {head : List Token} (h : IsEnumHead head) {token : Token}
    (hbrace : token.mark? ≠ some (.opens .brace))
    (hsemicolon : ¬(token.kind = .punct ∧ token.text = ";"))
    (htag : (∀ token ∈ head, token.kind = .number) ∨
      (token.kind = .ident → token.text ∉ tagWords)) : IsEnumHead (head ++ [token]) where
  no_brace other hother := by
    rcases List.mem_append.mp hother with hother | hother
    · exact h.no_brace other hother
    · rwa [List.mem_singleton.mp hother]
  no_semicolon other hother := by
    rcases List.mem_append.mp hother with hother | hother
    · exact h.no_semicolon other hother
    · rwa [List.mem_singleton.mp hother]
  no_tag other hother := by
    by_cases hnumbers : ∀ token ∈ head, token.kind = .number
    · have hnone : ((head ++ [token]).dropWhile (·.kind == .number)).tail = [] := by
        rw [List.dropWhile_append_of_pos fun other hother => by simp [hnumbers other hother],
          List.dropWhile_cons]
        split <;> rfl
      rw [hnone] at hother
      exact absurd hother List.not_mem_nil
    · have hsome : head.dropWhile (·.kind == .number) ≠ [] := by
        rw [ne_eq, List.dropWhile_eq_nil_iff]
        simpa using hnumbers
      have hdrop : ((head ++ [token]).dropWhile (·.kind == .number)).tail =
          (head.dropWhile (·.kind == .number)).tail ++ [token] := by
        rw [List.dropWhile_append, if_neg (by simpa using hsome), List.tail_append_of_ne_nil hsome]
      rw [hdrop] at hother
      rcases List.mem_append.mp hother with hother | hother
      · exact h.no_tag other hother
      · rw [List.mem_singleton.mp hother]
        exact htag.resolve_left hnumbers

/-- The tokens end in the word `enum` and a head. While the tag is expected, the head has nothing
but numbers. -/
def EndsInEnumHead (read : List Token) (expectTag : Bool) : Prop :=
  ∃ before word head, read = before ++ word :: head ∧ word.kind = .ident ∧ word.text = "enum" ∧
    IsEnumHead head ∧ (expectTag = true → ∀ token ∈ head, token.kind = .number)

/-- The tokens end inside a block of an enumeration, in which `inner` braces are open. -/
def EndsInEnumBlock (read : List Token) (inner : Nat) : Prop :=
  ∃ opening body, read = opening ++ body ∧ OpensEnum IsEnumHead opening ∧
    followMarks [] (marksOf .brace body) = some (List.replicate inner .brace)

section Reading

variable {read : List Token} {token : Token} {expectTag : Bool} {inner : Nat}

/-- A head goes on; the tag is no longer expected. -/
theorem EndsInEnumHead.concat (h : EndsInEnumHead read expectTag)
    (hbrace : token.mark? ≠ some (.opens .brace))
    (hsemicolon : ¬(token.kind = .punct ∧ token.text = ";"))
    (htag : expectTag = true ∨ (token.kind = .ident → token.text ∉ tagWords)) :
    EndsInEnumHead (read ++ [token]) false := by
  obtain ⟨before, word, head, rfl, hkind, htext, hhead, hnumbers⟩ := h
  refine ⟨before, word, head ++ [token], by simp, hkind, htext, ?_, by simp⟩
  exact hhead.concat hbrace hsemicolon (htag.imp_left hnumbers)

/-- A number leaves a head as it is. -/
theorem EndsInEnumHead.number (h : EndsInEnumHead read expectTag) (hkind : token.kind = .number) :
    EndsInEnumHead (read ++ [token]) expectTag := by
  have hbrace : token.mark? ≠ some (.opens .brace) := by
    intro hmark
    have hpunct := (Token.mark?_eq_some_iff.mp hmark).1
    rw [hkind] at hpunct
    cases hpunct
  obtain ⟨before, word, head, rfl, hword, htext, hhead, hnumbers⟩ := h
  refine ⟨before, word, head ++ [token], by simp, hword, htext, ?_, fun hexpect => ?_⟩
  · exact hhead.concat hbrace (by simp [hkind]) (Or.inr (by simp [hkind]))
  · intro other hother
    rcases List.mem_append.mp hother with hother | hother
    · exact hnumbers hexpect other hother
    · rwa [List.mem_singleton.mp hother]

/-- A brace behind a head opens the block. -/
theorem EndsInEnumHead.opens (h : EndsInEnumHead read expectTag)
    (hbrace : token.mark? = some (.opens .brace)) : EndsInEnumBlock (read ++ [token]) 0 := by
  obtain ⟨before, word, head, rfl, hkind, htext, hhead, _⟩ := h
  exact ⟨before ++ word :: (head ++ [token]), [], by simp,
    ⟨before, word, head, token, rfl, hkind, htext, hhead, hbrace⟩, rfl⟩

/-- A block goes on with one more token. -/
theorem EndsInEnumBlock.concat (h : EndsInEnumBlock read inner) {inner' : Nat}
    (htoken : followMarks (List.replicate inner .brace) (marksOf .brace [token]) =
      some (List.replicate inner' .brace)) : EndsInEnumBlock (read ++ [token]) inner' := by
  obtain ⟨opening, body, rfl, hopening, hbody⟩ := h
  refine ⟨opening, body ++ [token], by simp, hopening, ?_⟩
  rw [marksOf_append, followMarks_append, hbody, Option.bind_some, htoken]

/-- A token that is no brace leaves a block as it is. -/
theorem EndsInEnumBlock.other (h : EndsInEnumBlock read inner)
    (hopens : token.mark? ≠ some (.opens .brace)) (hcloses : token.mark? ≠ some (.closes .brace)) :
    EndsInEnumBlock (read ++ [token]) inner := by
  refine h.concat ?_
  rw [marksOf_cons_other hopens hcloses]
  rfl

/-- A brace is opened inside a block. -/
theorem EndsInEnumBlock.opens (h : EndsInEnumBlock read inner)
    (htoken : token.mark? = some (.opens .brace)) :
    EndsInEnumBlock (read ++ [token]) (inner + 1) := by
  refine h.concat ?_
  rw [marksOf_cons_opens htoken]
  rfl

/-- A brace is closed inside a block. -/
theorem EndsInEnumBlock.closes (h : EndsInEnumBlock read (inner + 1))
    (htoken : token.mark? = some (.closes .brace)) : EndsInEnumBlock (read ++ [token]) inner := by
  refine h.concat ?_
  rw [marksOf_cons_closes htoken]
  simp [marksOf, followMarks, List.replicate_succ]

/-- A name that is read directly inside a block stands in it. -/
theorem EndsInEnumBlock.standsInEnum (h : EndsInEnumBlock read 0) (hkind : token.kind = .ident) :
    StandsInEnum IsEnumHead (read ++ [token]) token.text := by
  obtain ⟨opening, body, rfl, hopening, hbody⟩ := h
  refine ⟨opening, body, token, [], by simp, hopening, ⟨[], ?_⟩, hkind, rfl⟩
  rw [List.append_nil]
  exact wellNested_iff_followMarks.mpr hbody

end Reading

namespace TypeNames

/-- What the state tells about the tokens that have been read. -/
structure Follows (read : List Token) (s : TypeNames) : Prop where
  /-- A head of an enumeration has been read. -/
  head : s.pendingEnum = true → EndsInEnumHead read s.expectTag
  /-- The block of an enumeration has not been closed. -/
  block : ∀ depth, s.enumDepth = some depth →
    depth < s.depth ∧ EndsInEnumBlock read (s.depth - depth - 1)
  /-- The enumerators stand in such blocks. -/
  constants : ∀ name ∈ s.enumConstants, StandsInEnum IsEnumHead read name

variable {catalog : Catalog} {read : List Token} {token : Token} {s s' : TypeNames}

/-- A token that is no brace leaves blocks and enumerators as they are. -/
theorem Follows.other (h : s.Follows read) (hopens : token.mark? ≠ some (.opens .brace))
    (hcloses : token.mark? ≠ some (.closes .brace)) (hdepth : s'.depth = s.depth)
    (hblock : s'.enumDepth = s.enumDepth) (hconstants : s'.enumConstants = s.enumConstants)
    (hhead : s'.pendingEnum = true → EndsInEnumHead (read ++ [token]) s'.expectTag) :
    s'.Follows (read ++ [token]) where
  head := hhead
  block depth hsome := by
    rw [hblock] at hsome
    obtain ⟨hlt, hread⟩ := h.block depth hsome
    rw [hdepth]
    exact ⟨hlt, hread.other hopens hcloses⟩
  constants name hname := (h.constants name (hconstants ▸ hname)).append [token]

/-- A token that is no punctuation is no bracket. -/
theorem mark?_of_kind_ne (hkind : token.kind ≠ .punct) (mark : BracketMark) :
    token.mark? ≠ some mark :=
  fun hmark => hkind (Token.mark?_eq_some_iff.mp hmark).1

/-- Adding a type changes nothing but the types. -/
theorem addType_eq (catalog : Catalog) (name : String) (s : TypeNames) :
    addType catalog name s = { s with types := (addType catalog name s).types } := by
  unfold addType
  split <;> rfl

/-- Reading an identifier. -/
theorem Follows.ident (h : s.Follows read) (hkind : token.kind = .ident) :
    (s.ident catalog token.text).Follows (read ++ [token]) := by
  have hmark := @mark?_of_kind_ne token (by simp [hkind])
  have hpunct : ¬(token.kind = .punct ∧ token.text = ";") := by simp [hkind]
  unfold TypeNames.ident
  split
  case isTrue hexpect =>
    -- Whatever word stands here, it is the tag.
    rw [addType_eq]
    refine h.other (hmark _) (hmark _) rfl rfl rfl fun hpending => ?_
    exact (h.head hpending).concat (hmark _) hpunct (Or.inl hexpect)
  case isFalse hexpect =>
    split
    case isTrue htag =>
      refine h.other (hmark _) (hmark _) rfl rfl rfl fun hpending => ?_
      refine ⟨read, token, [], rfl, hkind, eq_of_beq hpending, .of_numbers (by simp), by simp⟩
    case isFalse htag =>
      have hword : token.kind = .ident → token.text ∉ tagWords :=
        fun _ hmem => htag (List.contains_iff_mem.mpr hmem)
      have hhead : s.pendingEnum = true → EndsInEnumHead (read ++ [token]) s.expectTag := by
        intro hpending
        rw [Bool.not_eq_true] at hexpect
        rw [hexpect]
        exact (h.head hpending).concat (hmark _) hpunct (Or.inr hword)
      split
      · exact h.other (hmark _) (hmark _) rfl rfl rfl hhead
      split
      case isTrue hitem =>
        obtain ⟨hbody, _⟩ := Bool.and_eq_true_iff.mp hitem
        have hkept := @Follows.other read token s s h (hmark _) (hmark _) rfl rfl rfl hhead
        refine ⟨hkept.head, hkept.block, fun name hname => ?_⟩
        rcases List.mem_insert_iff.mp hname with rfl | hname
        · cases hdepth : s.enumDepth with
          | none => simp [inEnumBody, hdepth] at hbody
          | some depth =>
            have hinside : s.depth = depth + 1 := by simpa [inEnumBody, hdepth] using hbody
            have hread := (h.block depth hdepth).2
            have hzero : s.depth - depth - 1 = 0 := by omega
            rw [hzero] at hread
            exact hread.standsInEnum hkind
        · exact hkept.constants name hname
      · exact h.other (hmark _) (hmark _) rfl rfl rfl hhead

/-- Ending a statement. -/
theorem endStatement_eq (catalog : Catalog) (s : TypeNames) :
    ∃ types typedefDepth lastIdent, s.endStatement catalog =
      { s with
        pendingEnum := false
        types := types
        typedefDepth := typedefDepth
        lastIdent := lastIdent } := by
  unfold endStatement
  dsimp only
  split
  · cases s.lastIdent with
    | none => exact ⟨_, _, _, rfl⟩
    | some name =>
      rw [Option.elim_some, addType_eq]
      exact ⟨_, _, _, rfl⟩
  · exact ⟨_, _, _, rfl⟩

/-- Reading punctuation. -/
theorem Follows.punct (h : s.Follows read) (hkind : token.kind = .punct) :
    (s.punct catalog token.text).Follows (read ++ [token]) := by
  have hmark : ∀ mark : BracketMark, token.text ≠ String.singleton mark.char →
      token.mark? ≠ some mark := fun mark hne heq => hne (Token.mark?_eq_some_iff.mp heq).2
  unfold TypeNames.punct
  dsimp only
  split
  case isTrue hopens =>
    have hbrace : token.mark? = some (.opens .brace) :=
      Token.mark?_eq_some_iff.mpr ⟨hkind, hopens⟩
    have hconstants := fun name hname => (h.constants name hname).append [token]
    split
    case isTrue hpending =>
      refine ⟨by simp, fun depth hdepth => ?_, hconstants⟩
      obtain rfl : s.depth = depth := Option.some.inj hdepth
      have hread := (h.head hpending).opens hbrace
      exact ⟨Nat.lt_succ_self _, by simpa using hread⟩
    case isFalse hnone =>
      refine ⟨fun hpending => absurd hpending hnone, fun depth hdepth => ?_, hconstants⟩
      obtain ⟨hlt, hread⟩ := h.block depth hdepth
      have hinner : s.depth + 1 - depth - 1 = s.depth - depth - 1 + 1 := by omega
      exact ⟨Nat.lt_succ_of_lt hlt, hinner ▸ hread.opens hbrace⟩
  case isFalse hopens =>
  split
  case isTrue hcloses =>
    have hbrace : token.mark? = some (.closes .brace) :=
      Token.mark?_eq_some_iff.mpr ⟨hkind, hcloses⟩
    refine ⟨fun hpending => ?_, fun depth hdepth => ?_, fun name hname =>
      (h.constants name hname).append [token]⟩
    · refine (h.head hpending).concat (hmark _ hopens) ?_ (Or.inr (by simp [hkind]))
      rw [hcloses]
      simp
    · -- The brace closes one inside the block, for the block itself would have ended.
      obtain ⟨hsome, hne⟩ := Option.filter_eq_some_iff.mp hdepth
      obtain ⟨hlt, hread⟩ := h.block depth hsome
      have hne : depth ≠ s.depth - 1 := bne_iff_ne.mp hne
      have hinner : s.depth - depth - 1 = s.depth - 1 - depth - 1 + 1 := by omega
      rw [hinner] at hread
      exact ⟨by show depth < s.depth - 1; omega, hread.closes hbrace⟩
  case isFalse hcloses =>
  have hother := fun (s' : TypeNames) =>
    @Follows.other read token s s' h (hmark _ hopens) (hmark _ hcloses)
  split
  case isTrue hcomma =>
    have hhead : s.pendingEnum = true → EndsInEnumHead (read ++ [token]) false := by
      intro hpending
      refine (h.head hpending).concat (hmark _ hopens) ?_ (Or.inr (by simp [hkind]))
      rw [hcomma]
      simp
    split <;> exact hother _ rfl rfl rfl hhead
  case isFalse =>
  split
  case isTrue =>
    obtain ⟨types, typedefDepth, lastIdent, heq⟩ := endStatement_eq catalog
      { s with expectTag := false }
    rw [heq]
    exact hother _ rfl rfl rfl (by simp)
  case isFalse hsemicolon =>
    refine hother _ rfl rfl rfl fun hpending => ?_
    exact (h.head hpending).concat (hmark _ hopens) (fun hend => hsemicolon hend.2)
      (Or.inr (by simp [hkind]))

/-- Reading a token. -/
theorem Follows.step (h : s.Follows read) (token : Token) :
    (s.step catalog token).Follows (read ++ [token]) := by
  unfold TypeNames.step
  split
  case h_1 hkind => exact h.ident hkind
  case h_2 hkind =>
    have hmark := @mark?_of_kind_ne token (by simp [hkind])
    exact h.other (hmark _) (hmark _) rfl rfl rfl fun hpending => (h.head hpending).number hkind
  case h_3 hkind => exact h.punct hkind

/-- Reading tokens, one after the other. -/
theorem follows_foldl_step (catalog : Catalog) (tokens : List Token) :
    (tokens.foldl (TypeNames.step catalog) {}).Follows tokens := by
  induction tokens using List.reverseRecOn with
  | nil => exact ⟨by simp, by simp, by simp⟩
  | append_singleton tokens token ih =>
    rw [List.foldl_append, List.foldl_cons, List.foldl_nil]
    exact ih.step token

end TypeNames

/-- What is known when no enumerators are collected. -/
def Environment.withoutEnumerators (env : Environment) : Environment :=
  { env with enumConstants := [] }

/-- A use of a name that is no enumerator is resolved without regard to the enumerators. -/
theorem Walk.resolve_withoutEnumerators {env : Environment} {token : Token}
    (htoken : token.text ∉ env.enumConstants) (w : Walk) (line : Nat) :
    w.resolve env.withoutEnumerators line token = w.resolve env line token := by
  have hglobal : isGlobalName env.withoutEnumerators token.text = isGlobalName env token.text := by
    have hnot : env.enumConstants.contains token.text = false := by simpa using htoken
    simp only [isGlobalName, hnot]
    rfl
  unfold resolve
  rw [hglobal]

/-- A step that reads no enumerator does the same whatever enumerators are collected. -/
theorem WalkStep.after_withoutEnumerators {env : Environment} {step : WalkStep}
    (hstep : step.token.text ∉ env.enumConstants) :
    step.after env.withoutEnumerators = step.after env := by
  have hreference : step.before.reference env.withoutEnumerators step.code.number step.prev
      step.token step.rest =
        step.before.reference env step.code.number step.prev step.token step.rest := by
    unfold Walk.reference
    rw [Walk.resolve_withoutEnumerators hstep]
    rfl
  have hname : step.before.name env.withoutEnumerators step.code step.prev step.token step.rest =
      step.before.name env step.code step.prev step.token step.rest := by
    unfold Walk.name
    rw [hreference]
    rfl
  unfold WalkStep.after WalkStep.read
  split
  · rfl
  · rfl
  · unfold Walk.ident
    rw [hname]

/-- Every name that is collected as an enumerator stands in a block that the word `enum` announces,
and in the body of an enumeration if all such blocks are bodies. A use of a name that stands in no
such block is treated as if no enumerators had been collected. -/
theorem enumConstants_stand_in_blocks (catalog : Catalog) (config : Config) (text : List Char) :
    (∀ name ∈ (collectTypeNames catalog (codeRows text)).enumConstants,
      StandsInEnum IsEnumHead (typeTokens text) name ∧
        (AnnouncesBodies (typeTokens text) → StandsInEnum IsTagOnly (typeTokens text) name)) ∧
    ∀ step ∈ walkTrace catalog config text,
      (¬StandsInEnum IsEnumHead (typeTokens text) step.token.text ∨
        AnnouncesBodies (typeTokens text) ∧
          ¬StandsInEnum IsTagOnly (typeTokens text) step.token.text) →
      step.after (environmentOf catalog config text).withoutEnumerators =
        step.after (environmentOf catalog config text) := by
  have hread : (collectTypeNames catalog (codeRows text)).Follows (typeTokens text) :=
    TypeNames.follows_foldl_step catalog (typeTokens text)
  have hbodies : AnnouncesBodies (typeTokens text) →
      ∀ name ∈ (collectTypeNames catalog (codeRows text)).enumConstants,
        StandsInEnum IsTagOnly (typeTokens text) name := by
    intro hannounces name hname
    obtain ⟨opening, body, item, after, htokens, hopening, hinside⟩ := hread.constants name hname
    exact ⟨opening, body, item, after, htokens, hannounces opening _ htokens hopening, hinside⟩
  refine ⟨fun name hname => ⟨hread.constants name hname, fun h => hbodies h name hname⟩, ?_⟩
  intro step _ hoff
  refine WalkStep.after_withoutEnumerators fun hname => ?_
  rcases hoff with hoff | ⟨hannounces, hoff⟩
  · exact hoff (hread.constants _ hname)
  · exact hoff (hbodies hannounces _ hname)

/-- A variable of an enumerated type before a function. -/
def mentionedEnum : List Char :=
  "enum C c;\nvoid f()\x7bx=1;\x7d".toList

/-- The mention ends at its semicolon, so the name in the body of the function is reported. -/
theorem reported_mentionedEnum :
    ¬StandsInEnum IsEnumHead (typeTokens mentionedEnum) "x" ∧
    ∃ step ∈ walkTrace typeCatalog {} mentionedEnum, step.token.text = "x" ∧
      step.after (environmentOf typeCatalog {} mentionedEnum).withoutEnumerators =
        step.after (environmentOf typeCatalog {} mentionedEnum) ∧
      (step.after (environmentOf typeCatalog {} mentionedEnum)).findings.map Finding.cause =
        [.undefinedVariable "x"] := by
  have houtside : ¬StandsInEnum IsEnumHead (typeTokens mentionedEnum) "x" := by
    rintro ⟨opening, body, item, after, htokens, hopening, _⟩
    obtain ⟨i, hi, j, hj, hword, hbrace, hhead⟩ := hopening.exists_slice (body ++ item :: after)
    rw [← htokens] at hi hj hword hbrace hhead
    -- One word and one brace are left, and a semicolon stands between them.
    have hwords : ∀ i < (typeTokens mentionedEnum).length, ((typeTokens mentionedEnum)[i]?.any
        fun word => word.kind == .ident && word.text == "enum") = true → i = 0 := by
      decide
    have hbraces : ∀ j < (typeTokens mentionedEnum).length,
        (typeTokens mentionedEnum)[j]?.bind Token.mark? = some (.opens .brace) → j = 8 := by
      decide
    rw [hwords i hi hword, hbraces j hj hbrace] at hhead
    exact hhead.no_semicolon ⟨.punct, ";", 8⟩ (by decide) ⟨rfl, rfl⟩
  have hview : (walkTrace typeCatalog {} mentionedEnum)[8]?.map (fun step : WalkStep =>
      (step.token.text, (step.after (environmentOf typeCatalog {} mentionedEnum)).findings.map
        Finding.cause)) = some ("x", [.undefinedVariable "x"]) := by
    cbv
  obtain ⟨step, hstep, hview⟩ := Option.map_eq_some_iff.mp hview
  obtain ⟨htext, hfindings⟩ := Prod.mk.inj hview
  have hmem : step ∈ walkTrace typeCatalog {} mentionedEnum := List.mem_of_getElem? hstep
  refine ⟨houtside, step, hmem, htext, ?_, hfindings⟩
  exact (enumConstants_stand_in_blocks typeCatalog {} mentionedEnum).2 step hmem
    (Or.inl (htext ▸ houtside))

/-- A parameter of an enumerated type. -/
def enumParameter : List Char :=
  "void f(enum C c)\x7bx=1;\x7d".toList

/-- Not all collected names are enumerators: behind a parameter of an enumerated type, the body of
the function is taken for that of the enumeration, and a name in it is not reported. -/
theorem collected_enumParameter :
    "x" ∈ (collectTypeNames typeCatalog (codeRows (scrub enumParameter))).enumConstants ∧
    ¬StandsInEnum IsTagOnly (typeTokens (scrub enumParameter)) "x" ∧
    (checkDeclarations typeCatalog {} (scrub enumParameter)).findings = [] ∧
    ∃ step ∈ walkTrace typeCatalog {} (scrub enumParameter), step.token.text = "x" ∧
      (step.after (environmentOf typeCatalog {} (scrub enumParameter)).withoutEnumerators
        ).findings.map Finding.cause = [.undefinedVariable "x"] := by
  have hcollected : (collectTypeNames typeCatalog (codeRows (scrub enumParameter))).enumConstants =
      ["x"] := by
    cbv
  have hsilent : (checkDeclarations typeCatalog {} (scrub enumParameter)).findings = [] := by
    cbv
  have hview : (walkTrace typeCatalog {} (scrub enumParameter))[7]?.map (fun step : WalkStep =>
      (step.token.text, (step.after (environmentOf typeCatalog {}
        (scrub enumParameter)).withoutEnumerators).findings.map Finding.cause)) =
          some ("x", [.undefinedVariable "x"]) := by
    cbv
  obtain ⟨step, hstep, hview⟩ := Option.map_eq_some_iff.mp hview
  obtain ⟨htext, hfindings⟩ := Prod.mk.inj hview
  refine ⟨by simp [hcollected], ?_, hsilent, step, List.mem_of_getElem? hstep, htext, hfindings⟩
  rintro ⟨opening, body, item, after, htokens, hopening, _⟩
  obtain ⟨i, hi, j, hj, hword, hbrace, hhead⟩ := hopening.exists_slice (body ++ item :: after)
  rw [← htokens] at hi hj hword hbrace hhead
  have hwords : ∀ i < (typeTokens (scrub enumParameter)).length,
      ((typeTokens (scrub enumParameter))[i]?.any
        fun word => word.kind == .ident && word.text == "enum") = true → i = 3 := by
    decide
  have hbraces : ∀ j < (typeTokens (scrub enumParameter)).length,
      (typeTokens (scrub enumParameter))[j]?.bind Token.mark? = some (.opens .brace) → j = 7 := by
    decide
  rw [hwords i hi hword, hbraces j hj hbrace] at hhead
  have hthree : (((typeTokens (scrub enumParameter)).take 7).drop (3 + 1)).length = 3 := by
    decide
  rcases hhead with hnone | ⟨tag, _, hone⟩
  · simp [hnone] at hthree
  · simp [hone] at hthree

end BrickLint
