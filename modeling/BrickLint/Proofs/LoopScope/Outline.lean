import BrickLint.Proofs.Redeclaration.Memory

/-!
# Outlines of scopes

For the question which names are visible, only the outline of a scope matters: what it waits for and
the names that it holds. Using a name changes no outline, declaring one changes the outline of the
innermost scope, and what happens inside a block changes the outlines of no scope around it. Names
that a scope holds are never lost, so a name is visible as long as its scope is open.
-/

namespace BrickLint

/-- What is left of a scope when the places and uses of its variables are forgotten. -/
structure ScopeOutline where
  /-- Its kind. -/
  kind : ScopeKind
  /-- A header scope still waits for the brace of its body. -/
  awaitingBrace : Bool
  /-- The parentheses of a header scope are still open. -/
  headerOpen : Bool
  /-- How many parentheses were open before the header. -/
  headerDepth : Int
  /-- The names that it holds, in the order of declaration. -/
  names : List String
  deriving DecidableEq, Repr

namespace Scope

/-- The outline of a scope. -/
def outline (scope : Scope) : ScopeOutline :=
  ⟨scope.kind, scope.awaitingBrace, scope.headerOpen, scope.headerDepth,
    scope.declared.map (·.name)⟩

/-- Marking a variable as used changes no outline. -/
theorem outline_markUsed (scope : Scope) (name : String) :
    (scope.markUsed name).outline = scope.outline := by
  have hnames : (scope.markUsed name).declared.map (·.name) = scope.declared.map (·.name) := by
    rw [markUsed, List.map_map]
    refine List.map_congr_left fun v _ => ?_
    simp only [Function.comp_apply]
    split <;> rfl
  simp only [outline, hnames]
  rfl

/-- A name is held by a scope if a variable of this name is found. -/
theorem mem_names_outline {scope : Scope} {name : String} :
    name ∈ scope.outline.names ↔ (scope.find? name).isSome = true := by
  simp [outline, find?]

/-- Putting a variable of a new name adds its name. -/
theorem map_name_putVariable {vars : List Variable} {v : Variable}
    (hnew : ∀ w ∈ vars, w.name ≠ v.name) :
    (putVariable v vars).map (·.name) = vars.map (·.name) ++ [v.name] := by
  induction vars with
  | nil => rfl
  | cons w vars ih =>
    obtain ⟨hw, hvars⟩ := List.forall_mem_cons.mp hnew
    simp [putVariable, hw, ih hvars]

/-- Declaring a new variable adds its name. -/
theorem outline_declare {scope : Scope} {v : Variable} (hnew : scope.find? v.name = none) :
    (scope.declare v).outline =
      { scope.outline with names := scope.outline.names ++ [v.name] } := by
  have hnames : ∀ w ∈ scope.declared, w.name ≠ v.name := by
    simpa [find?] using hnew
  simp only [outline, declare, map_name_putVariable hnames]

end Scope

namespace ScopeStack

variable {s t u : ScopeStack}

/-- The outline of the scope with an index. -/
def outlineAt (s : ScopeStack) (index : Nat) : ScopeOutline :=
  (s.scopeAt index).outline

/-- The innermost open scope that holds a name. -/
def owner? (s : ScopeStack) (name : String) : Option Nat :=
  s.stack.find? fun index => (s.outlineAt index).names.contains name

/-- The owner of a name is the scope in which it is found. -/
theorem owner?_eq_map_find? (s : ScopeStack) (name : String) :
    s.owner? name = (s.find? name).map (·.1) := by
  unfold owner? find?
  induction s.stack with
  | nil => rfl
  | cons index stack ih =>
    have hholds : (s.outlineAt index).names.contains name =
        ((s.scopeAt index).find? name).isSome := by
      rw [Bool.eq_iff_iff, List.contains_iff_mem, outlineAt, Scope.mem_names_outline]
    rw [List.find?_cons, List.findSome?_cons, hholds]
    cases (s.scopeAt index).find? name with
    | none => exact ih
    | some v => rfl

/-- The innermost scope of a well formed stack is in the arena. -/
theorem WellFormed.currentIndex_lt (hs : s.WellFormed) : s.currentIndex < s.arena.length := by
  cases hstack : s.stack with
  | nil => exact absurd hstack hs.stack_ne_nil
  | cons index rest =>
    have hindex : s.currentIndex = index := by simp [currentIndex, hstack]
    exact hindex ▸ hs.lt_length index (by simp [hstack])

/-- The outline of the innermost scope. -/
theorem outlineAt_currentIndex (s : ScopeStack) : s.outlineAt s.currentIndex = s.current.outline :=
  rfl

/-- The outline of the innermost scope when it is changed. -/
theorem current_modifyCurrent (hs : s.WellFormed) (f : Scope → Scope) :
    (s.modifyCurrent f).current = f s.current :=
  scopeAt_modifyAt_self hs.currentIndex_lt f

/-- The same scopes are open, and only the innermost one has changed its outline. New scopes may
have been opened and closed. -/
structure Keeps (s t : ScopeStack) : Prop where
  /-- The same scopes are open. -/
  stack_eq : t.stack = s.stack
  /-- No scope leaves the arena. -/
  length_le : s.arena.length ≤ t.arena.length
  /-- The other scopes look the same. -/
  others : ∀ index < s.arena.length, index ≠ s.currentIndex → t.outlineAt index = s.outlineAt index

/-- Nothing has changed. -/
theorem Keeps.refl (s : ScopeStack) : s.Keeps s :=
  ⟨rfl, Nat.le_refl _, fun _ _ _ => rfl⟩

/-- The same scope is the innermost one. -/
theorem Keeps.currentIndex_eq (h : s.Keeps t) : t.currentIndex = s.currentIndex := by
  simp only [currentIndex, h.stack_eq]

/-- Changes inside a scope follow each other. -/
theorem Keeps.trans (hst : s.Keeps t) (htu : t.Keeps u) : s.Keeps u where
  stack_eq := htu.stack_eq.trans hst.stack_eq
  length_le := Nat.le_trans hst.length_le htu.length_le
  others index hindex hne := by
    rw [htu.others index (Nat.lt_of_lt_of_le hindex hst.length_le) (hst.currentIndex_eq ▸ hne),
      hst.others index hindex hne]

/-- A change of the innermost scope. -/
theorem Keeps.modifyCurrent (s : ScopeStack) (f : Scope → Scope) : s.Keeps (s.modifyCurrent f) where
  stack_eq := rfl
  length_le := by simp [ScopeStack.modifyCurrent]
  others index _ hne := congrArg Scope.outline (scopeAt_modifyAt_ne s (Ne.symm hne) f)

/-- A use of a name changes no outline. -/
theorem outlineAt_use (s : ScopeStack) (name : String) (index : Nat) :
    (s.use name).outlineAt index = s.outlineAt index := by
  unfold ScopeStack.use
  split
  case h_1 place v _ =>
    have hmarked : s.markUsed place name = s.modifyAt place (·.markUsed name) := rfl
    rw [hmarked, outlineAt, outlineAt]
    by_cases hplace : place = index
    · subst hplace
      by_cases hbound : place < s.arena.length
      · rw [scopeAt_modifyAt_self hbound, Scope.outline_markUsed]
      · simp [modifyAt, scopeAt, hbound]
    · rw [scopeAt_modifyAt_ne s hplace]
  case h_2 => rfl

/-- A use of a name keeps the scopes. -/
theorem Keeps.use (s : ScopeStack) (name : String) : s.Keeps (s.use name) where
  stack_eq := (SameBraces.use s name).stack_eq
  length_le := Nat.le_of_eq (SameBraces.use s name).length_eq.symm
  others index _ _ := outlineAt_use s name index

/-- A stack that keeps its scopes stays well formed. -/
theorem Keeps.wellFormed (h : s.Keeps t) (hs : s.WellFormed) : t.WellFormed where
  stack_ne_nil := h.stack_eq ▸ hs.stack_ne_nil
  nodup := h.stack_eq ▸ hs.nodup
  lt_length index hindex :=
    Nat.lt_of_lt_of_le (hs.lt_length index (h.stack_eq ▸ hindex)) h.length_le

/-- All scopes look the same when the innermost one does. -/
theorem Keeps.outlineAt_eq (h : s.Keeps t) (hcurrent : t.current.outline = s.current.outline)
    {index : Nat} (hindex : index < s.arena.length) : t.outlineAt index = s.outlineAt index := by
  by_cases hne : index = s.currentIndex
  · rw [← outlineAt_currentIndex, ← outlineAt_currentIndex, h.currentIndex_eq] at hcurrent
    rwa [hne]
  · exact h.others index hindex hne

/-- A new scope is the innermost one, and the scopes that were there before look the same. -/
structure Enters (s t : ScopeStack) : Prop where
  /-- The new scope is open, above the others. -/
  stack_eq : t.stack = s.arena.length :: s.stack
  /-- The new scope is in the arena. -/
  length_lt : s.arena.length < t.arena.length
  /-- The other scopes look the same. -/
  below : ∀ index < s.arena.length, t.outlineAt index = s.outlineAt index

/-- The new scope is the innermost one. -/
theorem Enters.currentIndex_eq (h : s.Enters t) : t.currentIndex = s.arena.length := by
  simp [currentIndex, h.stack_eq]

/-- Opening a scope enters it. -/
theorem Enters.push (s : ScopeStack) (kind : ScopeKind) (line : Int) (headerDepth : Option Int) :
    s.Enters (s.push kind line headerDepth) where
  stack_eq := rfl
  length_lt := by simp [ScopeStack.push]
  below index hindex := congrArg Scope.outline (scopeAt_enter hindex _)

/-- What happens inside the new scope changes nothing around it. -/
theorem Enters.keeps (h : s.Enters t) (htu : t.Keeps u) : s.Enters u where
  stack_eq := htu.stack_eq.trans h.stack_eq
  length_lt := Nat.lt_of_lt_of_le h.length_lt htu.length_le
  below index hindex := by
    have hne : index ≠ t.currentIndex := by
      rw [h.currentIndex_eq]
      omega
    rw [htu.others index (Nat.lt_trans hindex h.length_lt) hne, h.below index hindex]

/-- When the new scope is closed, the scopes around it are open. -/
theorem Enters.stack_pop (h : s.Enters t) (hs : s.WellFormed) : t.pop.stack = s.stack := by
  cases hrest : s.stack with
  | nil => exact absurd hrest hs.stack_ne_nil
  | cons outer rest => simp [pop, popEntry, h.stack_eq, hrest]

/-- When the new scope is closed, the scopes around it look as before. -/
theorem Enters.keeps_pop (h : s.Enters t) (hs : s.WellFormed) :
    s.Keeps t.pop ∧ t.pop.current.outline = s.current.outline := by
  have hstack := h.stack_pop hs
  have hcurrent : t.pop.currentIndex = s.currentIndex := by simp only [currentIndex, hstack]
  refine ⟨⟨hstack, Nat.le_of_lt h.length_lt, fun index hindex _ => h.below index hindex⟩, ?_⟩
  rw [← outlineAt_currentIndex, hcurrent]
  exact h.below s.currentIndex hs.currentIndex_lt

/-- The kinds of the open scopes stay when the innermost one keeps its kind. -/
theorem Keeps.inside_eq (h : s.Keeps t) (hs : s.WellFormed)
    (hcurrent : t.current.kind = s.current.kind) (kind : ScopeKind) :
    t.inside kind = s.inside kind := by
  have hkind : ∀ index ∈ s.stack, (t.scopeAt index).kind = (s.scopeAt index).kind := by
    intro index hindex
    by_cases hne : index = s.currentIndex
    · rw [hne]
      rw [current, h.currentIndex_eq] at hcurrent
      exact hcurrent
    · exact congrArg ScopeOutline.kind (h.others index (hs.lt_length index hindex) hne)
  rw [inside, inside, h.stack_eq, Bool.eq_iff_iff]
  simp only [List.any_eq_true]
  exact exists_congr fun index => and_congr_right fun hmem => by rw [hkind index hmem]

/-- A kind of scope that is not open is not open after entering a scope of another kind. -/
theorem Enters.inside_eq_false (h : s.Enters t) (hs : s.WellFormed) {kind own : ScopeKind}
    (hown : t.current.kind = own) (hne : own ≠ kind) (hinside : s.inside kind = false) :
    t.inside kind = false := by
  simp only [inside, List.any_eq_false, beq_iff_eq] at hinside ⊢
  rw [h.stack_eq]
  intro index hindex
  rcases List.mem_cons.mp hindex with rfl | hindex
  · rw [current, h.currentIndex_eq] at hown
    rwa [hown]
  · have hsame := congrArg ScopeOutline.kind (h.below index (hs.lt_length index hindex))
    exact fun heq => hinside index hindex (hsame.symm.trans heq)

/-- The owners of names are the same when the same scopes are open and look the same. -/
theorem owner?_congr (hstack : t.stack = s.stack)
    (h : ∀ index ∈ s.stack, t.outlineAt index = s.outlineAt index) (name : String) :
    t.owner? name = s.owner? name := by
  unfold owner?
  rw [hstack]
  generalize s.stack = stack at h
  induction stack with
  | nil => rfl
  | cons index stack ih =>
    obtain ⟨hindex, hrest⟩ := List.forall_mem_cons.mp h
    rw [List.find?_cons, List.find?_cons, hindex, ih hrest]

end ScopeStack

/-- A name that a scope holds before a step is held after it. -/
theorem WalkStep.names_after {env : Environment} {step : WalkStep}
    (hw : step.before.scopes.WellFormed) {index : Nat} {name : String}
    (h : name ∈ (step.before.scopes.outlineAt index).names) :
    name ∈ ((step.after env).scopes.outlineAt index).names := by
  have hmem : ∀ s : ScopeStack, name ∈ (s.outlineAt index).names ↔
      (s.remembered index name).isSome = true := by
    intro s
    rw [ScopeStack.outlineAt, Scope.mem_names_outline, ScopeStack.remembered, Option.isSome_map]
  rw [hmem] at h ⊢
  cases hdeclaration : step.declaration? env with
  | none => rwa [(step.declaresNothing hdeclaration).remembered_eq]
  | some d =>
    rw [(step.after_of_declaration? hdeclaration).2.1]
    unfold Walk.declare
    split
    · split <;> exact h
    case h_2 hnew =>
      have hdeclared : (step.before.scopes.declare d.declared).remembered index name = _ :=
        ScopeStack.remembered_declare hw hnew index name
      have hkept :
          ((step.before.scopes.declare d.declared).remembered index name).isSome = true := by
        rw [hdeclared]
        split
        · rfl
        · exact h
      cases Walk.shadowing? env.catalog env.config d.declared with
      | none => exact hkept
      | some f => exact hkept

/-- A name that a scope holds is visible as long as the scope is open. -/
theorem isSome_find?_of_isRun {env : Environment} {w w' : Walk} {steps : List WalkStep}
    (hrun : IsRun env w steps w') (hw : w.scopes.Grounded) {index : Nat} {name : String}
    (h : name ∈ (w.scopes.outlineAt index).names) (hopen : index ∈ w'.scopes.stack) :
    (w'.scopes.find? name).isSome = true := by
  induction steps generalizing w with
  | nil =>
    obtain rfl : w = w' := hrun
    have howner : (w.scopes.owner? name).isSome = true :=
      List.find?_isSome.mpr ⟨index, hopen, List.contains_iff_mem.mpr h⟩
    rwa [ScopeStack.owner?_eq_map_find?, Option.isSome_map] at howner
  | cons step steps ih =>
    obtain ⟨rfl, hrun⟩ := hrun
    exact ih hrun (step.grounded_after env hw) (step.names_after hw.toWellFormed h)

end BrickLint
