import BrickLint.Proofs.ScopeStack
import Mathlib.Data.List.Chain

/-!
# The arena of scopes and the stack of open ones

Whatever is opened, closed, declared and looked up, the places of the arena and the entries of the
stack fit together: every scope knows its own place and the scope around it, and the open scopes are
the chain of scopes around the innermost one, down to the global scope. So the innermost open scope
that holds a name is the first one on that chain. No scope leaves the arena, no name leaves its
scope, and a scope that was closed stays as it was.
-/

namespace BrickLint

/-- The names of the variables of a scope, in the order of declaration. -/
def Scope.names (scope : Scope) : List String :=
  scope.declared.map (·.name)

namespace ScopeStack

/-- An operation on a scope stack. -/
inductive Operation where
  /-- A scope is opened; a header scope is given the number of open parentheses. -/
  | push (kind : ScopeKind) (line : Int) (headerDepth : Option Int)
  /-- The innermost scope is closed, unless it is the global one. -/
  | pop
  /-- A variable is declared in the innermost scope. -/
  | declare (v : Variable)
  /-- A name is looked up, and what is found may be marked as used. -/
  | lookup (name : String) (markUsed : Bool)

/-- The scope stack after an operation. -/
def Operation.run (s : ScopeStack) : Operation → ScopeStack
  | .push kind line headerDepth => s.push kind line headerDepth
  | .pop => s.pop
  | .declare v => s.declare v
  | .lookup name true => s.use name
  | .lookup _ false => s

/-- The arena and the stack fit together. -/
structure IsArena (s : ScopeStack) : Prop where
  /-- Every scope knows its own place. -/
  index_eq : ∀ (i : Nat) (scope : Scope), s.arena[i]? = some scope → scope.index = i
  /-- At the start of the arena is the global scope that was made first; only variables have been
  added to it. -/
  root : ∃ declared, s.arena[0]? = some { Scope.root with declared := declared }
  /-- Every other scope has a scope around it, which was made before. -/
  parent_lt : ∀ (i : Nat) (scope : Scope), s.arena[i]? = some scope → i ≠ 0 →
    ∃ parent, scope.parent = some parent ∧ parent < i
  /-- The open scopes are in the arena. -/
  lt_length : ∀ i ∈ s.stack, i < s.arena.length
  /-- The global scope lies at the bottom of the stack. -/
  bottom : s.stack.getLast? = some 0
  /-- From the bottom up, the stack increases. -/
  increasing : s.stack.reverse.Pairwise (· < ·)
  /-- Below each open scope lies the scope around it. -/
  linked : s.stack.IsChain fun inner outer => (s.scopeAt inner).parent = some outer
  /-- No scope holds two variables of one name. -/
  nodup_names : ∀ scope ∈ s.arena, scope.names.Nodup

variable {s t u : ScopeStack}

/-- A scope in the arena. -/
theorem scopeAt_of_getElem? {i : Nat} {scope : Scope} (h : s.arena[i]? = some scope) :
    s.scopeAt i = scope := by
  rw [scopeAt, h, Option.getD_some]

/-- The open scopes are increasing from the bottom up when each is above all those below it. -/
theorem increasing_iff {stack : List Nat} :
    stack.reverse.Pairwise (· < ·) ↔ stack.Pairwise (· > ·) :=
  List.pairwise_reverse

/-- A scope of the arena after another one was entered is the new one or was there before. -/
theorem getElem?_enter {i : Nat} {scope other : Scope}
    (h : (s.enter scope).arena[i]? = some other) :
    s.arena[i]? = some other ∨ i = s.arena.length ∧ other = scope := by
  have happend : (s.arena ++ [scope])[i]? = some other := h
  rw [List.getElem?_append] at happend
  split at happend
  · exact Or.inl happend
  case isFalse hi =>
    obtain ⟨hlast, hother⟩ := List.getElem?_eq_some_iff.mp happend
    have hi : i = s.arena.length := by
      simp only [List.length_singleton] at hlast
      omega
    exact Or.inr ⟨hi, by simpa using hother.symm⟩

/-- A new scope stack is an arena with its stack. -/
theorem isArena_initial : IsArena {} where
  index_eq := by
    intro i scope h
    obtain ⟨hi, rfl⟩ := List.getElem?_eq_some_iff.mp h
    obtain rfl : i = 0 := by simpa using hi
    rfl
  root := ⟨[], rfl⟩
  parent_lt := by
    intro i scope h hi
    obtain ⟨hlength, _⟩ := List.getElem?_eq_some_iff.mp h
    exact absurd (by simpa using hlength) hi
  lt_length := by simp
  bottom := rfl
  increasing := by simp
  linked := by simp
  nodup_names := by simp [Scope.names, Scope.root]

/-- A change of a scope that leaves everything but its variables alone and keeps their names, to
which new ones may be added at the end. -/
structure ChangesVariables (f : Scope → Scope) : Prop where
  /-- Everything else stays. -/
  rest_eq : ∀ scope, { f scope with declared := scope.declared } = scope
  /-- The names stay. -/
  names_prefix : ∀ scope, scope.names <+: (f scope).names
  /-- Different names stay different. -/
  nodup_names : ∀ scope, scope.names.Nodup → (f scope).names.Nodup

/-- The names of a list of variables after one is put into it. -/
theorem map_name_putVariable (v : Variable) (vars : List Variable) :
    (putVariable v vars).map (·.name) =
      if v.name ∈ vars.map (·.name) then vars.map (·.name)
      else vars.map (·.name) ++ [v.name] := by
  induction vars with
  | nil => simp [putVariable]
  | cons w vars ih =>
    rw [putVariable]
    by_cases hname : w.name = v.name
    · simp [hname]
    · rw [if_neg hname, List.map_cons, ih]
      by_cases hmem : v.name ∈ vars.map (·.name)
      · simp [hmem]
      · have hne : v.name ∉ (w :: vars).map (·.name) := by
          rw [List.map_cons, List.mem_cons, not_or]
          exact ⟨Ne.symm hname, hmem⟩
        rw [if_neg hmem, if_neg hne, List.map_cons, List.cons_append]

/-- Declaring a variable changes the variables of a scope. -/
theorem changesVariables_declare (v : Variable) : ChangesVariables (·.declare v) where
  rest_eq := fun _ => rfl
  names_prefix := by
    intro scope
    rw [Scope.names, Scope.names, Scope.declare, map_name_putVariable]
    split
    · exact List.prefix_refl _
    · exact List.prefix_append _ _
  nodup_names := by
    intro scope hscope
    rw [Scope.names, Scope.declare, map_name_putVariable]
    split
    · exact hscope
    case isFalse hnew =>
      refine List.nodup_append.mpr ⟨hscope, by simp, ?_⟩
      rintro name hname other hother rfl
      exact hnew (List.mem_singleton.mp hother ▸ hname)

/-- Marking a variable as used keeps the names of a scope. -/
theorem names_markUsed (scope : Scope) (name : String) :
    (scope.markUsed name).names = scope.names := by
  rw [Scope.names, Scope.names, Scope.markUsed, List.map_map]
  refine List.map_congr_left fun v _ => ?_
  dsimp only [Function.comp]
  split <;> rfl

/-- Marking a variable as used changes the variables of a scope. -/
theorem changesVariables_markUsed (name : String) : ChangesVariables (·.markUsed name) where
  rest_eq := fun _ => rfl
  names_prefix := fun scope => by simp [names_markUsed]
  nodup_names := fun scope hscope => by rwa [names_markUsed]

/-- A scope of the arena after one scope was changed comes from the scope at its place. -/
theorem getElem?_modifyAt {f : Scope → Scope} {index i : Nat} {scope : Scope}
    (h : (s.modifyAt index f).arena[i]? = some scope) :
    ∃ old, s.arena[i]? = some old ∧ scope = if index = i then f old else old := by
  have hmodify : (s.arena.modify index f)[i]? = some scope := h
  rw [List.getElem?_modify] at hmodify
  obtain ⟨old, hold, hscope⟩ := Option.map_eq_some_iff.mp hmodify
  exact ⟨old, hold, hscope.symm⟩

/-- Every place of the arena is kept when one scope is changed. -/
theorem exists_getElem?_modifyAt {i : Nat} {old : Scope} (h : s.arena[i]? = some old)
    (index : Nat) (f : Scope → Scope) :
    ∃ scope, (s.modifyAt index f).arena[i]? = some scope := by
  have hi : i < (s.modifyAt index f).arena.length := by
    simpa [ScopeStack.modifyAt] using (List.getElem?_eq_some_iff.mp h).1
  exact ⟨_, List.getElem?_eq_getElem hi⟩

/-- A scope after a change of the variables of one scope. -/
theorem ChangesVariables.of_modifyAt {f : Scope → Scope} (hf : ChangesVariables f)
    {index i : Nat} {scope : Scope} (h : (s.modifyAt index f).arena[i]? = some scope) :
    ∃ old, s.arena[i]? = some old ∧ { scope with declared := old.declared } = old ∧
      old.names <+: scope.names ∧ (old.names.Nodup → scope.names.Nodup) := by
  obtain ⟨old, hold, rfl⟩ := getElem?_modifyAt h
  refine ⟨old, hold, ?_⟩
  split
  · exact ⟨hf.rest_eq old, hf.names_prefix old, hf.nodup_names old⟩
  · exact ⟨rfl, List.prefix_refl _, id⟩

namespace IsArena

/-- Some scope is open. -/
theorem stack_ne_nil (hs : s.IsArena) : s.stack ≠ [] := by
  intro h
  simpa [h] using hs.bottom

/-- The innermost scope is open. -/
theorem currentIndex_mem (hs : s.IsArena) : s.currentIndex ∈ s.stack := by
  obtain ⟨index, rest, hstack⟩ := List.exists_cons_of_ne_nil hs.stack_ne_nil
  simp [currentIndex, hstack]

/-- Exactly the global scope has no scope around it. -/
theorem parent_eq_none_iff (hs : s.IsArena) {i : Nat} {scope : Scope}
    (h : s.arena[i]? = some scope) : scope.parent = none ↔ i = 0 := by
  constructor
  · intro hparent
    by_contra hi
    obtain ⟨parent, hsome, _⟩ := hs.parent_lt i scope h hi
    rw [hparent] at hsome
    cases hsome
  · rintro rfl
    obtain ⟨declared, hroot⟩ := hs.root
    obtain rfl := Option.some.inj (h.symm.trans hroot)
    rfl

/-- Opening a scope around which the innermost one lies keeps arena and stack together. -/
theorem enter (hs : s.IsArena) {scope : Scope} (hindex : scope.index = s.arena.length)
    (hparent : scope.parent = some s.currentIndex) (hnames : scope.names.Nodup) :
    (s.enter scope).IsArena where
  index_eq := by
    intro i other h
    rcases getElem?_enter h with h | ⟨rfl, rfl⟩
    · exact hs.index_eq i other h
    · exact hindex
  root := by
    obtain ⟨declared, hroot⟩ := hs.root
    exact ⟨declared, List.getElem?_append_left (List.getElem?_eq_some_iff.mp hroot).1 ▸ hroot⟩
  parent_lt := by
    intro i other h hi
    rcases getElem?_enter h with h | ⟨rfl, rfl⟩
    · exact hs.parent_lt i other h hi
    · exact ⟨_, hparent, hs.lt_length _ hs.currentIndex_mem⟩
  lt_length := by
    intro i hi
    simp only [ScopeStack.enter, List.length_append, List.length_singleton]
    rcases List.mem_cons.mp hi with rfl | hi
    · omega
    · have := hs.lt_length i hi
      omega
  bottom := by
    obtain ⟨index, rest, hstack⟩ := List.exists_cons_of_ne_nil hs.stack_ne_nil
    have hbottom := hs.bottom
    simp only [ScopeStack.enter]
    rw [hstack] at hbottom ⊢
    rw [List.getLast?_cons_cons, hbottom]
  increasing := by
    have hdecreasing := increasing_iff.mp hs.increasing
    exact increasing_iff.mpr (List.pairwise_cons.mpr ⟨hs.lt_length, hdecreasing⟩)
  linked := by
    refine List.isChain_cons.mpr ⟨fun outer houter => ?_, ?_⟩
    · have hnew : (s.enter scope).scopeAt s.arena.length = scope := current_enter s scope
      rw [hnew, hparent, currentIndex, Option.mem_def.mp houter, Option.getD_some]
    · refine hs.linked.imp_of_mem_imp fun inner outer hinner _ hlink => ?_
      rw [scopeAt_enter (hs.lt_length inner hinner), hlink]
  nodup_names := by
    intro other hother
    rcases List.mem_append.mp hother with hother | hother
    · exact hs.nodup_names other hother
    · exact List.mem_singleton.mp hother ▸ hnames

/-- Opening a scope keeps arena and stack together. -/
theorem push (hs : s.IsArena) (kind : ScopeKind) (line : Int) (headerDepth : Option Int) :
    (s.push kind line headerDepth).IsArena :=
  hs.enter rfl rfl List.nodup_nil

/-- Closing innermost scopes keeps arena and stack together, as long as one is left. -/
theorem of_suffix (hs : s.IsArena) {stack : List Nat} (hsuffix : stack <:+ s.stack)
    (hne : stack ≠ []) : IsArena { s with stack := stack } where
  index_eq := hs.index_eq
  root := hs.root
  parent_lt := hs.parent_lt
  lt_length := fun i hi => hs.lt_length i (hsuffix.subset hi)
  bottom := by
    obtain ⟨closed, hclosed⟩ := hsuffix
    have hbottom := hs.bottom
    rwa [← hclosed, List.getLast?_append_of_ne_nil _ hne] at hbottom
  increasing :=
    increasing_iff.mpr ((increasing_iff.mp hs.increasing).sublist hsuffix.sublist)
  linked := hs.linked.suffix hsuffix
  nodup_names := hs.nodup_names

/-- Closing the innermost scope keeps arena and stack together. -/
theorem pop (hs : s.IsArena) : s.pop.IsArena :=
  hs.of_suffix (popEntry_suffix _) (popEntry_ne_nil hs.stack_ne_nil)

/-- Changing the variables of a scope keeps arena and stack together. -/
theorem modifyAt (hs : s.IsArena) {f : Scope → Scope} (hf : ChangesVariables f) (index : Nat) :
    (s.modifyAt index f).IsArena where
  index_eq := by
    intro i scope h
    obtain ⟨old, hold, hsame, _⟩ := hf.of_modifyAt h
    exact (congrArg Scope.index hsame).trans (hs.index_eq i old hold)
  root := by
    obtain ⟨declared, hroot⟩ := hs.root
    obtain ⟨scope, hscope⟩ := exists_getElem?_modifyAt hroot index f
    obtain ⟨old, hold, hsame, _⟩ := hf.of_modifyAt hscope
    obtain rfl := Option.some.inj (hroot.symm.trans hold)
    refine ⟨scope.declared, hscope.trans (congrArg some ?_)⟩
    exact congrArg (fun other : Scope => { other with declared := scope.declared }) hsame
  parent_lt := by
    intro i scope h hi
    obtain ⟨old, hold, hsame, _⟩ := hf.of_modifyAt h
    obtain ⟨parent, hparent, hlt⟩ := hs.parent_lt i old hold hi
    exact ⟨parent, (congrArg Scope.parent hsame).trans hparent, hlt⟩
  lt_length := by
    intro i hi
    simpa [ScopeStack.modifyAt] using hs.lt_length i hi
  bottom := hs.bottom
  increasing := hs.increasing
  linked := by
    refine hs.linked.imp_of_mem_imp fun inner outer hinner _ hlink => ?_
    obtain ⟨scope, hscope⟩ :=
      exists_getElem?_modifyAt (List.getElem?_eq_getElem (hs.lt_length inner hinner)) index f
    obtain ⟨old, hold, hsame, _⟩ := hf.of_modifyAt hscope
    rw [scopeAt_of_getElem? hold] at hlink
    rw [scopeAt_of_getElem? hscope]
    exact (congrArg Scope.parent hsame).trans hlink
  nodup_names := by
    intro scope hscope
    obtain ⟨i, hi⟩ := List.mem_iff_getElem?.mp hscope
    obtain ⟨old, hold, _, _, hnodup⟩ := hf.of_modifyAt hi
    exact hnodup (hs.nodup_names old (List.mem_of_getElem? hold))

/-- Using a name keeps arena and stack together. -/
theorem use (hs : s.IsArena) (name : String) : (s.use name).IsArena := by
  unfold ScopeStack.use
  split
  · exact hs.modifyAt (changesVariables_markUsed name) _
  · exact hs

/-- An operation keeps arena and stack together. -/
theorem run (hs : s.IsArena) (operation : Operation) : (operation.run s).IsArena := by
  cases operation with
  | push kind line headerDepth => exact hs.push kind line headerDepth
  | pop => exact hs.pop
  | declare v => exact hs.modifyAt (changesVariables_declare v) _
  | lookup name markUsed =>
    cases markUsed with
    | false => exact hs
    | true => exact hs.use name

end IsArena

/-- Operations keep arena and stack together. -/
theorem IsArena.foldl_run (hs : s.IsArena) (operations : List Operation) :
    (operations.foldl Operation.run s).IsArena := by
  induction operations generalizing s with
  | nil => exact hs
  | cons operation operations ih => exact ih (hs.run operation)

/-- What operations leave as it is. -/
structure KeepsScopes (s t : ScopeStack) : Prop where
  /-- No scope leaves the arena, and no name leaves its scope. -/
  scope_kept : ∀ (i : Nat) (old : Scope), s.arena[i]? = some old →
    ∃ scope, t.arena[i]? = some scope ∧ { scope with declared := old.declared } = old ∧
      old.names <+: scope.names
  /-- A scope that is closed is not opened again, and keeps its variables as they are. -/
  closed_kept : ∀ i < s.arena.length, i ∉ s.stack → i ∉ t.stack ∧ t.arena[i]? = s.arena[i]?

/-- Nothing happens. -/
theorem KeepsScopes.refl (s : ScopeStack) : s.KeepsScopes s :=
  ⟨fun _ old hold => ⟨old, hold, rfl, List.prefix_refl _⟩, fun _ _ hi => ⟨hi, rfl⟩⟩

/-- What is kept twice is kept. -/
theorem KeepsScopes.trans (hst : s.KeepsScopes t) (htu : t.KeepsScopes u) : s.KeepsScopes u where
  scope_kept := by
    intro i old hold
    obtain ⟨mid, hmid, hsame, hnames⟩ := hst.scope_kept i old hold
    obtain ⟨scope, hscope, hsame', hnames'⟩ := htu.scope_kept i mid hmid
    refine ⟨scope, hscope, ?_, hnames.trans hnames'⟩
    calc { scope with declared := old.declared }
        = { mid with declared := old.declared } :=
          congrArg (fun scope : Scope => { scope with declared := old.declared }) hsame'
      _ = old := hsame
  closed_kept := by
    intro i hi hclosed
    obtain ⟨hclosed', hsame⟩ := hst.closed_kept i hi hclosed
    have hi' : i < t.arena.length :=
      (List.getElem?_eq_some_iff.mp (hsame.trans (List.getElem?_eq_getElem hi))).1
    obtain ⟨hclosed'', hsame'⟩ := htu.closed_kept i hi' hclosed'
    exact ⟨hclosed'', hsame'.trans hsame⟩

/-- Entering a scope leaves the other scopes as they are. -/
theorem KeepsScopes.enter (s : ScopeStack) (scope : Scope) : s.KeepsScopes (s.enter scope) where
  scope_kept := by
    intro i old hold
    have hi := (List.getElem?_eq_some_iff.mp hold).1
    exact ⟨old, (List.getElem?_append_left hi).trans hold, rfl, List.prefix_refl _⟩
  closed_kept := by
    intro i hi hclosed
    refine ⟨?_, List.getElem?_append_left hi⟩
    have hne : i ≠ s.arena.length := by omega
    simpa [ScopeStack.enter, hne] using hclosed

/-- Changing the variables of an open scope leaves closed ones as they are. -/
theorem KeepsScopes.modifyAt {f : Scope → Scope} (hf : ChangesVariables f) {index : Nat}
    (hindex : index ∈ s.stack) : s.KeepsScopes (s.modifyAt index f) where
  scope_kept := by
    intro i old hold
    obtain ⟨scope, hscope⟩ := exists_getElem?_modifyAt hold index f
    obtain ⟨old', hold', hsame, hnames, _⟩ := hf.of_modifyAt hscope
    obtain rfl := Option.some.inj (hold.symm.trans hold')
    exact ⟨_, hscope, hsame, hnames⟩
  closed_kept := by
    intro i _ hclosed
    have hne : index ≠ i := fun h => hclosed (h ▸ hindex)
    refine ⟨hclosed, ?_⟩
    simp [ScopeStack.modifyAt, hne]

/-- Closing the innermost scope leaves all scopes as they are. -/
theorem KeepsScopes.pop (s : ScopeStack) : s.KeepsScopes s.pop where
  scope_kept := (KeepsScopes.refl s).scope_kept
  closed_kept := fun _ _ hclosed =>
    ⟨fun hopen => hclosed ((popEntry_suffix s.stack).subset hopen), rfl⟩

/-- A name is found in an open scope. -/
theorem mem_stack_of_find? {name : String} {index : Nat} {v : Variable}
    (h : s.find? name = some (index, v)) :
    index ∈ s.stack ∧ (s.scopeAt index).find? name = some v := by
  obtain ⟨i, hi, hfound⟩ := List.exists_of_findSome?_eq_some h
  obtain ⟨w, hw, hpair⟩ := Option.map_eq_some_iff.mp hfound
  obtain ⟨rfl, rfl⟩ := Prod.mk.inj hpair
  exact ⟨hi, hw⟩

/-- Using a name leaves closed scopes as they are. -/
theorem KeepsScopes.use (s : ScopeStack) (name : String) : s.KeepsScopes (s.use name) := by
  unfold ScopeStack.use
  split
  case h_1 index v hfound =>
    exact .modifyAt (changesVariables_markUsed name) (mem_stack_of_find? hfound).1
  case h_2 => exact .refl s

/-- What an operation leaves as it is. -/
theorem IsArena.keeps_run (hs : s.IsArena) (operation : Operation) :
    s.KeepsScopes (operation.run s) := by
  cases operation with
  | push kind line headerDepth => exact .enter s _
  | pop => exact .pop s
  | declare v => exact .modifyAt (changesVariables_declare v) hs.currentIndex_mem
  | lookup name markUsed =>
    cases markUsed with
    | false => exact .refl s
    | true => exact .use s name

/-- What operations leave as it is. -/
theorem IsArena.keeps_foldl_run (hs : s.IsArena) (operations : List Operation) :
    s.KeepsScopes (operations.foldl Operation.run s) := by
  induction operations generalizing s with
  | nil => exact .refl s
  | cons operation operations ih => exact (hs.keeps_run operation).trans (ih (hs.run operation))

/-- What is found for a name from a scope on: the variable of the first scope that holds the name,
when the scopes around are searched from the inside out. -/
inductive FindsFrom (s : ScopeStack) (name : String) : Nat → Option (Nat × Variable) → Prop
  /-- The scope holds the name. -/
  | here (index : Nat) (v : Variable) (hfound : (s.scopeAt index).find? name = some v) :
    FindsFrom s name index (some (index, v))
  /-- The scope does not hold the name, and the search goes on around it. -/
  | outside (index parent : Nat) (result : Option (Nat × Variable))
    (hmissing : (s.scopeAt index).find? name = none)
    (hparent : (s.scopeAt index).parent = some parent) (houter : FindsFrom s name parent result) :
    FindsFrom s name index result
  /-- No scope lies around the global one. -/
  | nowhere (hmissing : (s.scopeAt 0).find? name = none)
    (hparent : (s.scopeAt 0).parent = none) : FindsFrom s name 0 none

/-- The first open scope that holds a name is the first one on the chain of scopes around the
innermost one. -/
theorem IsArena.findsFrom (hs : s.IsArena) (name : String) :
    s.FindsFrom name s.currentIndex (s.find? name) := by
  have hrun : ∀ (rest : List Nat) (index : Nat), (index :: rest).getLast? = some 0 →
      (index :: rest).IsChain (fun inner outer => (s.scopeAt inner).parent = some outer) →
      s.FindsFrom name index ((index :: rest).findSome? fun i =>
        ((s.scopeAt i).find? name).map (i, ·)) := by
    intro rest
    induction rest with
    | nil =>
      intro index hbottom _
      obtain rfl : index = 0 := by simpa using hbottom
      cases hscope : (s.scopeAt 0).find? name with
      | some v => simpa [hscope] using FindsFrom.here 0 v hscope
      | none =>
        obtain ⟨declared, hroot⟩ := hs.root
        have hparent : (s.scopeAt 0).parent = none := by rw [scopeAt_of_getElem? hroot]; rfl
        simpa [hscope] using FindsFrom.nowhere hscope hparent
    | cons outer rest ih =>
      intro index hbottom hlinked
      obtain ⟨hparent, hlinked⟩ := List.isChain_cons_cons.mp hlinked
      rw [List.getLast?_cons_cons] at hbottom
      cases hscope : (s.scopeAt index).find? name with
      | some v => simpa [hscope] using FindsFrom.here index v hscope
      | none =>
        rw [List.findSome?_cons, hscope]
        exact .outside index outer _ hscope hparent (ih outer hbottom hlinked)
  obtain ⟨index, rest, hstack⟩ := List.exists_cons_of_ne_nil hs.stack_ne_nil
  have hfound := hrun rest index (hstack ▸ hs.bottom) (hstack ▸ hs.linked)
  rw [find?, currentIndex, hstack]
  exact hfound

/-- Among variables of different names, marking a name changes one place. -/
theorem map_markUsed_eq_set {vars : List Variable} (hnames : (vars.map (·.name)).Nodup)
    {place : Nat} {v : Variable} (hv : vars[place]? = some v) :
    (vars.map fun w => if w.name = v.name then { w with used := true } else w) =
      vars.set place { v with used := true } := by
  induction vars generalizing place with
  | nil => simp at hv
  | cons w vars ih =>
    rw [List.map_cons, List.nodup_cons] at hnames
    cases place with
    | zero =>
      obtain rfl : w = v := by simpa using hv
      have hother : ∀ x ∈ vars, (if x.name = w.name then { x with used := true } else x) = x :=
        fun x hx => if_neg fun hname : x.name = w.name =>
          hnames.1 (hname ▸ List.mem_map_of_mem hx)
      rw [List.map_cons, if_pos rfl, List.map_congr_left hother, List.map_id', List.set_cons_zero]
    | succ place =>
      have hmem : v.name ∈ vars.map (·.name) :=
        List.mem_map_of_mem (List.mem_of_getElem? (by simpa using hv))
      have hne : w.name ≠ v.name := fun hname => hnames.1 (hname ▸ hmem)
      rw [List.map_cons, if_neg hne, ih hnames.2 (by simpa using hv), List.set_cons_succ]

/-- In a scope in which a name has been marked, the variable of the name is used. -/
theorem find?_markUsed (scope : Scope) (name : String) :
    (scope.markUsed name).find? name =
      (scope.find? name).map fun v => { v with used := true } := by
  rw [Scope.find?, Scope.markUsed, List.find?_map]
  have hsame : ((fun v : Variable => v.name == name) ∘ fun v =>
      if v.name = name then { v with used := true } else v) = fun v => v.name == name := by
    funext v
    dsimp only [Function.comp]
    split <;> rfl
  rw [hsame, Scope.find?]
  refine Option.map_congr fun v hv => ?_
  have hname : v.name = name := by simpa using List.find?_some hv
  rw [if_pos hname]

/-- Searches that agree on the elements of a list find the same. -/
theorem findSome?_congr {α β : Type} {f g : α → Option β} {l : List α}
    (h : ∀ a ∈ l, f a = g a) : l.findSome? f = l.findSome? g := by
  induction l with
  | nil => rfl
  | cons a l ih =>
    obtain ⟨ha, hl⟩ := List.forall_mem_cons.mp h
    rw [List.findSome?_cons, List.findSome?_cons, ha, ih hl]

/-- Using a name that is found marks one variable, and changes nothing else. -/
theorem IsArena.use_of_find? (hs : s.IsArena) {name : String} {index : Nat} {v : Variable}
    (hfound : s.find? name = some (index, v)) :
    (∃ place, (s.scopeAt index).declared[place]? = some v ∧
      s.use name = { s with
        arena := s.arena.set index { s.scopeAt index with
          declared := (s.scopeAt index).declared.set place { v with used := true } } }) ∧
      (s.use name).find? name = some (index, { v with used := true }) := by
  obtain ⟨hopen, hv⟩ := mem_stack_of_find? hfound
  have hscope := List.getElem?_eq_getElem (hs.lt_length index hopen)
  have huse : s.use name = s.modifyAt index (·.markUsed name) := by rw [ScopeStack.use, hfound]; rfl
  constructor
  · obtain rfl : v.name = name := by simpa using List.find?_some hv
    obtain ⟨place, hplace⟩ := List.mem_iff_getElem?.mp (List.mem_of_find?_eq_some hv)
    have hnames := hs.nodup_names _ (List.mem_of_getElem? hscope)
    rw [← scopeAt_of_getElem? hscope] at hnames
    have hmark := map_markUsed_eq_set hnames hplace
    refine ⟨place, hplace, ?_⟩
    rw [huse, ScopeStack.modifyAt, List.modify_eq_set_getElem?, hscope,
      ← scopeAt_of_getElem? hscope, ← hmark]
    rfl
  · -- The search meets the same scopes, and only the variable that it ends at has changed.
    have hsearch : ∀ i ∈ s.stack, (((s.use name).scopeAt i).find? name).map (i, ·) =
        (((s.scopeAt i).find? name).map (i, ·)).map fun found =>
          (found.1, if found.1 = index then { found.2 with used := true } else found.2) := by
      intro i hi
      rw [huse]
      by_cases hindex : i = index
      · subst hindex
        rw [scopeAt_modifyAt_self (hs.lt_length i hi), find?_markUsed]
        simp [Option.map_map, Function.comp_def]
      · rw [scopeAt_modifyAt_ne s (Ne.symm hindex)]
        simp [Option.map_map, Function.comp_def, hindex]
    have hstack : (s.use name).stack = s.stack := by rw [huse]; rfl
    rw [find?, hstack, findSome?_congr hsearch]
    refine List.map_findSome?.symm.trans ?_
    change Option.map _ (s.find? name) = _
    rw [hfound, Option.map_some, if_pos rfl]

/-- A name that is not found is not marked. -/
theorem use_of_find?_eq_none {name : String} (hmissing : s.find? name = none) :
    s.use name = s := by
  rw [ScopeStack.use, hmissing]

/-- After any operations on a new scope stack, arena and stack fit together; whatever operations
follow, no scope and no name is removed, and closed scopes keep their variables. A name is looked
up along the chain of scopes around the innermost one, and looking it up changes nothing but
whether the variable that is found is used. -/
theorem isArena_of_operations (operations : List Operation) :
    let s := operations.foldl Operation.run {}
    s.IsArena ∧
      (∀ (i : Nat) (scope : Scope), s.arena[i]? = some scope → (scope.parent = none ↔ i = 0)) ∧
      (∀ more : List Operation, s.KeepsScopes (more.foldl Operation.run s)) ∧
      ∀ name : String, s.FindsFrom name s.currentIndex (s.find? name) ∧
        (s.find? name = none → s.use name = s) ∧
        ∀ (index : Nat) (v : Variable), s.find? name = some (index, v) →
          (∃ place, (s.scopeAt index).declared[place]? = some v ∧
            s.use name = { s with
              arena := s.arena.set index { s.scopeAt index with
                declared := (s.scopeAt index).declared.set place { v with used := true } } }) ∧
          (s.use name).find? name = some (index, { v with used := true }) := by
  intro s
  have hs : s.IsArena := isArena_initial.foldl_run operations
  exact ⟨hs, fun i scope h => hs.parent_eq_none_iff h, hs.keeps_foldl_run, fun name =>
    ⟨hs.findsFrom name, use_of_find?_eq_none, fun index v => hs.use_of_find?⟩⟩

/-- A parameter. -/
def sampleParameter : Variable :=
  { name := "n", line := 0, column := 11, isParameter := true }

/-- A function with a parameter is opened, and a block in it. -/
def sampleOperations : List Operation :=
  [.push .function 0 (some 0), .declare sampleParameter, .push .block 1 none]

/-- The parameter is found from inside the block, where using it marks it, and it stays in its scope
when more scopes are closed than were opened. -/
theorem isArena_of_operations_parameter :
    let s := sampleOperations.foldl Operation.run {}
    s.find? "n" = some (1, sampleParameter) ∧
      (s.use "n").find? "n" = some (1, { sampleParameter with used := true }) ∧
      s.KeepsScopes ([Operation.lookup "n" true, .pop, .pop, .pop].foldl Operation.run s) := by
  intro s
  obtain ⟨_, _, hkeeps, hlookup⟩ := isArena_of_operations sampleOperations
  have hfound : s.find? "n" = some (1, sampleParameter) := by decide
  exact ⟨hfound, ((hlookup "n").2.2 1 sampleParameter hfound).2, hkeeps _⟩

end ScopeStack

end BrickLint
