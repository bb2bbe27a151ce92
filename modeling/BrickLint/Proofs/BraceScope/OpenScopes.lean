import BrickLint.Proofs.ScopeStack
import Mathlib.Data.List.TakeWhile

/-!
# Open scopes and waiting headers

For the braces only two things about an open scope matter: which scope it is, and whether it is a
header scope that still waits for its brace. The global scope lies at the bottom and waits for
nothing. Header scopes that wait may be dropped from the top, so what a block rests on is stated up
to such scopes.
-/

namespace BrickLint.ScopeStack

/-- The open scopes, innermost first, each with whether it waits for the brace of its body. -/
def openScopes (s : ScopeStack) : List (Nat × Bool) :=
  s.stack.map fun index => (index, (s.scopeAt index).awaitingBrace)

/-- Above the open scopes `base` lie only header scopes that wait for their braces. -/
def RestsOn (s : ScopeStack) (base : List (Nat × Bool)) : Prop :=
  ∃ waiting : List Nat, s.openScopes = waiting.map (·, true) ++ base

/-- The same scopes are open, and the same scopes wait for their braces. -/
structure SameBraces (s t : ScopeStack) : Prop where
  /-- The same scopes are open. -/
  stack_eq : t.stack = s.stack
  /-- No scope is added. -/
  length_eq : t.arena.length = s.arena.length
  /-- The same scopes wait. -/
  awaiting_eq : ∀ index, (t.scopeAt index).awaitingBrace = (s.scopeAt index).awaitingBrace

variable {s t u : ScopeStack}

/-- Nothing has changed. -/
theorem SameBraces.refl (s : ScopeStack) : s.SameBraces s :=
  ⟨rfl, rfl, fun _ => rfl⟩

/-- Changes that do not concern braces follow each other. -/
theorem SameBraces.trans (hst : s.SameBraces t) (htu : t.SameBraces u) : s.SameBraces u :=
  ⟨htu.stack_eq.trans hst.stack_eq, htu.length_eq.trans hst.length_eq,
    fun index => (htu.awaiting_eq index).trans (hst.awaiting_eq index)⟩

/-- A change of one scope that leaves it waiting or not waiting does not concern braces. -/
theorem SameBraces.modifyAt (s : ScopeStack) (index : Nat) {f : Scope → Scope}
    (hf : ∀ scope, (f scope).awaitingBrace = scope.awaitingBrace) :
    s.SameBraces (s.modifyAt index f) := by
  refine ⟨rfl, by simp [ScopeStack.modifyAt], fun other => ?_⟩
  by_cases hother : index = other
  · subst hother
    by_cases hindex : index < s.arena.length
    · rw [scopeAt_modifyAt_self hindex, hf]
    · simp [ScopeStack.modifyAt, scopeAt, hindex]
  · rw [scopeAt_modifyAt_ne s hother]

/-- A use of a name does not concern braces. -/
theorem SameBraces.use (s : ScopeStack) (name : String) : s.SameBraces (s.use name) := by
  unfold ScopeStack.use
  split
  · exact .modifyAt s _ fun _ => rfl
  · exact .refl s

/-- The open scopes look the same. -/
theorem SameBraces.openScopes_eq (h : s.SameBraces t) : t.openScopes = s.openScopes := by
  simp only [openScopes, h.stack_eq, h.awaiting_eq]

/-- The same scopes are rested on. -/
theorem SameBraces.restsOn (h : s.SameBraces t) {base : List (Nat × Bool)}
    (hs : s.RestsOn base) : t.RestsOn base := by
  rw [RestsOn, h.openScopes_eq]
  exact hs

/-- A well formed stack with the global scope at the bottom, which does not wait for a brace. -/
structure Grounded (s : ScopeStack) : Prop extends WellFormed s where
  /-- The global scope lies at the bottom. -/
  ground : s.openScopes.getLast? = some (0, false)

/-- A new scope stack is grounded. -/
theorem grounded_initial : Grounded {} :=
  ⟨wellFormed_initial, rfl⟩

/-- Changes that do not concern braces keep a stack grounded. -/
theorem SameBraces.grounded (h : s.SameBraces t) (hs : s.Grounded) : t.Grounded where
  stack_ne_nil := h.stack_eq ▸ hs.stack_ne_nil
  nodup := h.stack_eq ▸ hs.nodup
  lt_length := by
    rw [h.stack_eq, h.length_eq]
    exact hs.lt_length
  ground := h.openScopes_eq ▸ hs.ground

/-- Closing innermost scopes keeps a stack grounded, as long as one is left. -/
theorem Grounded.of_suffix (hs : s.Grounded) {stack : List Nat} (hsuffix : stack <:+ s.stack)
    (hne : stack ≠ []) : Grounded { s with stack := stack } where
  stack_ne_nil := hne
  nodup := hs.nodup.sublist hsuffix.sublist
  lt_length := fun index hindex => hs.lt_length index (hsuffix.subset hindex)
  ground := by
    obtain ⟨closed, hclosed⟩ := hsuffix
    have hground := hs.ground
    rw [openScopes, ← hclosed, List.map_append,
      List.getLast?_append_of_ne_nil _ (by simpa using hne)] at hground
    exact hground

/-- A new scope is the innermost one. -/
theorem openScopes_push (hs : s.WellFormed) (kind : ScopeKind) (line : Int)
    (headerDepth : Option Int) :
    (s.push kind line headerDepth).openScopes =
      (s.arena.length, headerDepth.isSome) :: s.openScopes := by
  have hnew : (s.push kind line headerDepth).scopeAt s.arena.length = _ :=
    current_enter s _
  have hold : ∀ index ∈ s.stack, (s.push kind line headerDepth).scopeAt index = s.scopeAt index :=
    fun index hindex => scopeAt_enter (hs.lt_length index hindex) _
  change (s.arena.length :: s.stack).map _ = _
  rw [List.map_cons, hnew]
  refine congrArg _ (List.map_congr_left fun index hindex => ?_)
  rw [hold index hindex]

/-- A new scope keeps a stack grounded. -/
theorem Grounded.push (hs : s.Grounded) (kind : ScopeKind) (line : Int)
    (headerDepth : Option Int) : (s.push kind line headerDepth).Grounded where
  toWellFormed := hs.toWellFormed.enter _
  ground := by
    rw [openScopes_push hs.toWellFormed, List.getLast?_cons, hs.ground]
    rfl

/-- Binds a brace to the innermost scope. -/
def bindBrace (s : ScopeStack) : ScopeStack :=
  s.modifyCurrent fun scope => { scope with awaitingBrace := false }

/-- The innermost scope is the first open scope. -/
theorem openScopes_eq_cons (hs : s.WellFormed) :
    ∃ below, s.openScopes = (s.currentIndex, s.current.awaitingBrace) :: below := by
  cases hstack : s.stack with
  | nil => exact absurd hstack hs.stack_ne_nil
  | cons index rest => simp [openScopes, hstack, current, currentIndex]

/-- The scope to which a brace is bound waits no longer. -/
theorem openScopes_bindBrace (hs : s.WellFormed) {index : Nat} {awaiting : Bool}
    {below : List (Nat × Bool)} (hopen : s.openScopes = (index, awaiting) :: below) :
    s.bindBrace.openScopes = (index, false) :: below := by
  obtain ⟨top, rest, hstack, htop, rfl⟩ := List.map_eq_cons_iff.mp hopen
  obtain ⟨rfl, _⟩ := Prod.mk.inj htop
  have hcurrent : s.currentIndex = top := by simp [currentIndex, hstack]
  have hbound := hs.lt_length top (by simp [hstack])
  have hnodup := hs.nodup
  rw [hstack] at hnodup
  change s.stack.map (fun other =>
    (other, ((s.modifyAt s.currentIndex _).scopeAt other).awaitingBrace)) = _
  rw [hcurrent, hstack, List.map_cons, scopeAt_modifyAt_self hbound]
  refine congrArg _ (List.map_congr_left fun other hother => ?_)
  have hne : top ≠ other := fun h => (List.nodup_cons.mp hnodup).1 (h ▸ hother)
  rw [scopeAt_modifyAt_ne s hne]

/-- Binding a brace to a waiting scope keeps a stack grounded. -/
theorem Grounded.bindBrace (hs : s.Grounded) (hwaits : s.current.awaitingBrace = true) :
    s.bindBrace.Grounded where
  toWellFormed := hs.toWellFormed.modifyAt _ _
  ground := by
    obtain ⟨below, hopen⟩ := openScopes_eq_cons hs.toWellFormed
    have hground := hs.ground
    rw [hopen, hwaits] at hground
    rw [openScopes_bindBrace hs.toWellFormed hopen]
    -- The scope that waits is not the one at the bottom, so something lies below it.
    cases below with
    | nil => simp at hground
    | cons entry below => simpa [List.getLast?_cons_cons] using hground

/-- Dropping entries leaves an end of the stack. -/
theorem dropEntries_suffix (p : Nat → Bool) (stack : List Nat) :
    dropEntries p stack <:+ stack := by
  fun_induction dropEntries p stack with
  | case1 index outer rest hp ih => exact ih.trans (List.suffix_cons _ _)
  | case2 index outer rest hp => exact List.suffix_refl _
  | case3 stack _ => exact List.suffix_refl _

/-- The last entry stays. -/
theorem dropEntries_ne_nil (p : Nat → Bool) {stack : List Nat} (hne : stack ≠ []) :
    dropEntries p stack ≠ [] := by
  fun_induction dropEntries p stack with
  | case1 index outer rest hp ih => exact ih (by simp)
  | case2 index outer rest hp => exact hne
  | case3 stack _ => exact hne

/-- Dropping entries stops at an entry without the property. -/
theorem dropEntries_append {p : Nat → Bool} {index : Nat} (hp : p index = false)
    (above below : List Nat) :
    dropEntries p (above ++ index :: below) = above.dropWhile p ++ index :: below := by
  induction above with
  | nil => cases below <;> simp [dropEntries, hp]
  | cons entry above ih =>
    have hcons : dropEntries p (entry :: (above ++ index :: below)) =
        if p entry then dropEntries p (above ++ index :: below)
        else entry :: (above ++ index :: below) := by
      cases above <;> rfl
    rw [List.cons_append, hcons, ih, List.dropWhile_cons]
    split <;> rfl

/-- A scope that waits for nothing, with waiting scopes above it, in terms of the stack. -/
theorem RestsOn.exists_stack {index : Nat} {below : List (Nat × Bool)}
    (h : s.RestsOn ((index, false) :: below)) :
    ∃ waiting rest, s.stack = waiting ++ index :: rest ∧
      (∀ other ∈ waiting, (s.scopeAt other).awaitingBrace = true) ∧
      (s.scopeAt index).awaitingBrace = false ∧
      below = rest.map fun other => (other, (s.scopeAt other).awaitingBrace) := by
  obtain ⟨waiting, hopen⟩ := h
  obtain ⟨above, more, hstack, habove, hmore⟩ := List.map_eq_append_iff.mp hopen
  obtain ⟨_, rest, rfl, hindex, rfl⟩ := List.map_eq_cons_iff.mp hmore
  obtain ⟨rfl, hawaiting⟩ := Prod.mk.inj hindex
  refine ⟨above, rest, hstack, fun other hother => ?_, hawaiting, rfl⟩
  have hmem := List.mem_map_of_mem (f := fun i => (i, (s.scopeAt i).awaitingBrace)) hother
  rw [habove] at hmem
  obtain ⟨_, _, heq⟩ := List.mem_map.mp hmem
  exact (Prod.mk.inj heq).2.symm

/-- Dropping waiting scopes from the top leaves what they rest on. -/
theorem RestsOn.popWhile {index : Nat} {below : List (Nat × Bool)}
    (h : s.RestsOn ((index, false) :: below)) {p : Scope → Bool}
    (hp : ∀ scope, p scope = true → scope.awaitingBrace = true) :
    (s.popWhile p).RestsOn ((index, false) :: below) := by
  obtain ⟨waiting, rest, hstack, hwaiting, hindex, rfl⟩ := h.exists_stack
  have hstop : p (s.scopeAt index) = false := by
    rw [Bool.eq_false_iff]
    intro hdrop
    rw [hp _ hdrop] at hindex
    exact Bool.noConfusion hindex
  refine ⟨waiting.dropWhile fun other => p (s.scopeAt other), ?_⟩
  have hkept : ∀ other ∈ waiting.dropWhile (fun other => p (s.scopeAt other)),
      (other, (s.scopeAt other).awaitingBrace) = (other, true) := by
    intro other hother
    rw [hwaiting other ((List.dropWhile_suffix _).subset hother)]
  change (dropEntries (fun other => p (s.scopeAt other)) s.stack).map
    (fun other => (other, (s.scopeAt other).awaitingBrace)) = _
  rw [hstack, dropEntries_append (p := fun other => p (s.scopeAt other)) hstop, List.map_append,
    List.map_congr_left hkept, List.map_cons, hindex]

/-- Closing the innermost scope that does not wait closes the scopes that wait above it, too, and
nothing below it. -/
theorem RestsOn.openScopes_close {index : Nat} {below : List (Nat × Bool)}
    (h : s.RestsOn ((index, false) :: below)) (hbelow : below ≠ []) :
    (s.popWhile (·.awaitingBrace)).pop.openScopes = below := by
  obtain ⟨waiting, rest, hstack, hwaiting, hindex, rfl⟩ := h.exists_stack
  have hdropped : waiting.dropWhile (fun other => (s.scopeAt other).awaitingBrace) = [] :=
    List.dropWhile_eq_nil_iff.mpr hwaiting
  change (popEntry (dropEntries (fun other => (s.scopeAt other).awaitingBrace) s.stack)).map
    (fun other => (other, (s.scopeAt other).awaitingBrace)) = _
  rw [hstack, dropEntries_append (p := fun other => (s.scopeAt other).awaitingBrace) hindex,
    hdropped, List.nil_append]
  cases rest with
  | nil => exact absurd rfl hbelow
  | cons outer rest => rfl

/-- Dropping scopes from the top keeps a stack grounded. -/
theorem Grounded.popWhile (hs : s.Grounded) (p : Scope → Bool) : (s.popWhile p).Grounded :=
  hs.of_suffix (dropEntries_suffix _ _) (dropEntries_ne_nil _ hs.stack_ne_nil)

/-- Closing the innermost scope keeps a stack grounded. -/
theorem Grounded.pop (hs : s.Grounded) : s.pop.Grounded :=
  hs.of_suffix (popEntry_suffix _) (popEntry_ne_nil hs.stack_ne_nil)

end BrickLint.ScopeStack
