import BrickLint.Scope
import Mathlib.Data.List.Nodup

/-!
# Open scopes as frames

The arena of a scope stack is an implementation of nested scopes. Seen from outside, a stack shows
its open scopes, innermost first, each as the list of its variables: its *frames*. Declaring changes
the innermost frame, using a name changes the first frame that holds it, and entering and leaving a
scope add and remove a frame. Scopes that are closed stay in the arena as they were.
-/

namespace BrickLint.ScopeStack

/-- The stack of a scope stack is a list of different places of the arena, and never empty. -/
structure WellFormed (s : ScopeStack) : Prop where
  /-- Some scope is open. -/
  stack_ne_nil : s.stack ≠ []
  /-- No scope is open twice. -/
  nodup : s.stack.Nodup
  /-- The open scopes are in the arena. -/
  lt_length : ∀ index ∈ s.stack, index < s.arena.length

/-- The variables of the open scopes, innermost scope first. -/
def frames (s : ScopeStack) : List (List Variable) :=
  s.stack.map fun index => (s.scopeAt index).declared

/-- A new scope stack is well formed. -/
theorem wellFormed_initial : WellFormed {} :=
  ⟨by simp, by simp, by simp⟩

/-- Opens a given scope. -/
def enter (s : ScopeStack) (scope : Scope) : ScopeStack :=
  ⟨s.arena ++ [scope], s.arena.length :: s.stack⟩

/-- The scope that was entered is the innermost one. -/
@[simp] theorem current_enter (s : ScopeStack) (scope : Scope) :
    (s.enter scope).current = scope := by
  simp [enter, current, currentIndex, scopeAt]

/-- Changing the innermost scope right after it was entered is entering the changed scope. -/
@[simp] theorem modifyCurrent_enter (s : ScopeStack) (scope : Scope) (f : Scope → Scope) :
    (s.enter scope).modifyCurrent f = s.enter (f scope) := by
  have hmodify : (s.arena ++ [scope]).modify s.arena.length f = s.arena ++ [f scope] := by
    apply List.ext_getElem?
    intro i
    rw [List.getElem?_modify]
    rcases Nat.lt_trichotomy i s.arena.length with hi | rfl | hi
    · have hne : s.arena.length ≠ i := by omega
      simp [hne, List.getElem?_append_left hi]
    · simp
    · have hne : s.arena.length ≠ i := by omega
      have hlength : (s.arena ++ [f scope]).length ≤ i := by simp; omega
      have hlength' : (s.arena ++ [scope]).length ≤ i := by simp; omega
      simp [hne, List.getElem?_eq_none hlength, List.getElem?_eq_none hlength']
  simp [enter, modifyCurrent, currentIndex, hmodify]

/-- The scopes that were there before look the same after another one was entered. -/
theorem scopeAt_enter {s : ScopeStack} {index : Nat} (hindex : index < s.arena.length)
    (scope : Scope) : (s.enter scope).scopeAt index = s.scopeAt index := by
  simp [enter, scopeAt, List.getElem?_append_left hindex]

/-- Entering a scope adds its variables as the innermost frame. -/
theorem frames_enter {s : ScopeStack} (hs : s.WellFormed) (scope : Scope) :
    (s.enter scope).frames = scope.declared :: s.frames := by
  have hhead : (s.enter scope).scopeAt s.arena.length = scope := by simp [enter, scopeAt]
  have htail : ∀ index ∈ s.stack,
      ((s.enter scope).scopeAt index).declared = (s.scopeAt index).declared := by
    intro index hindex
    rw [scopeAt_enter (hs.lt_length index hindex)]
  change (s.arena.length :: s.stack).map
    (fun index => ((s.enter scope).scopeAt index).declared) = scope.declared :: s.frames
  rw [List.map_cons, hhead, List.map_congr_left htail]
  rfl

/-- Entering a scope keeps a stack well formed. -/
theorem WellFormed.enter {s : ScopeStack} (hs : s.WellFormed) (scope : Scope) :
    (s.enter scope).WellFormed where
  stack_ne_nil := by simp [ScopeStack.enter]
  nodup := by
    refine List.nodup_cons.mpr ⟨fun hmem => ?_, hs.nodup⟩
    exact absurd (hs.lt_length _ hmem) (Nat.lt_irrefl _)
  lt_length := by
    intro index hindex
    simp only [ScopeStack.enter, List.length_append, List.length_singleton]
    rcases List.mem_cons.mp hindex with rfl | hmem
    · omega
    · have := hs.lt_length _ hmem
      omega

/-- Changes the scope at a place of the arena. -/
def modifyAt (s : ScopeStack) (index : Nat) (f : Scope → Scope) : ScopeStack :=
  { s with arena := s.arena.modify index f }

/-- A change at one place leaves the other places alone. -/
theorem scopeAt_modifyAt_ne (s : ScopeStack) {index other : Nat} (hne : index ≠ other)
    (f : Scope → Scope) : (s.modifyAt index f).scopeAt other = s.scopeAt other := by
  simp [modifyAt, scopeAt, hne]

/-- A change at a place of the arena is seen there. -/
theorem scopeAt_modifyAt_self {s : ScopeStack} {index : Nat} (hindex : index < s.arena.length)
    (f : Scope → Scope) : (s.modifyAt index f).scopeAt index = f (s.scopeAt index) := by
  simp [modifyAt, scopeAt, List.getElem?_eq_getElem hindex]

/-- Changing a scope keeps a stack well formed. -/
theorem WellFormed.modifyAt {s : ScopeStack} (hs : s.WellFormed) (index : Nat)
    (f : Scope → Scope) : (s.modifyAt index f).WellFormed := by
  refine ⟨hs.stack_ne_nil, hs.nodup, fun i hi => ?_⟩
  simpa [ScopeStack.modifyAt] using hs.lt_length i hi

/-- The innermost frame holds the variables of the innermost scope. -/
theorem frames_eq_cons {s : ScopeStack} (hs : s.WellFormed) :
    s.frames = s.current.declared :: s.frames.tail := by
  cases hstack : s.stack with
  | nil => exact absurd hstack hs.stack_ne_nil
  | cons index rest => simp [frames, hstack, current, currentIndex]

/-- A change of the innermost scope changes the innermost frame only. -/
theorem frames_modifyCurrent {s : ScopeStack} (hs : s.WellFormed) (f : Scope → Scope) :
    (s.modifyCurrent f).frames = (f s.current).declared :: s.frames.tail := by
  cases hstack : s.stack with
  | nil => exact absurd hstack hs.stack_ne_nil
  | cons index rest =>
    have hindex : s.currentIndex = index := by simp [currentIndex, hstack]
    have hbound := hs.lt_length index (by simp [hstack])
    have hnodup := hs.nodup
    rw [hstack] at hnodup
    have hrest : ∀ other ∈ rest, ((s.modifyAt index f).scopeAt other).declared =
        (s.scopeAt other).declared := by
      intro other hother
      have hne : index ≠ other := fun h => (List.nodup_cons.mp hnodup).1 (h ▸ hother)
      rw [scopeAt_modifyAt_ne s hne]
    change s.stack.map (fun other => ((s.modifyAt s.currentIndex f).scopeAt other).declared) = _
    rw [hindex, hstack, List.map_cons, scopeAt_modifyAt_self hbound, List.map_congr_left hrest,
      current, hindex]
    simp [frames, hstack]

/-- What happens between two moments at which the same scopes are open: the scopes that were closed
before stay as they were, and new scopes may have been opened and closed, with the given variables
at the end. -/
structure Grows (s t : ScopeStack) (opened : List (List Variable)) : Prop where
  /-- The same scopes are open. -/
  stack_eq : t.stack = s.stack
  /-- No scope leaves the arena. -/
  length_le : s.arena.length ≤ t.arena.length
  /-- Closed scopes stay as they were. -/
  closed_eq : ∀ index < s.arena.length, index ∉ s.stack → t.arena[index]? = s.arena[index]?
  /-- The variables of the new scopes, in the order of creation. -/
  opened_eq : (t.arena.drop s.arena.length).map (·.declared) = opened

/-- Nothing happens. -/
theorem Grows.refl (s : ScopeStack) : s.Grows s [] :=
  ⟨rfl, Nat.le_refl _, fun _ _ _ => rfl, by simp⟩

/-- What happens to an open scope opens no new one. -/
theorem Grows.modifyAt {s : ScopeStack} {index : Nat} (hindex : index ∈ s.stack)
    (f : Scope → Scope) : s.Grows (s.modifyAt index f) [] := by
  refine ⟨rfl, by simp [ScopeStack.modifyAt], fun other _ hother => ?_, by
    simp [ScopeStack.modifyAt]⟩
  have hne : index ≠ other := fun h => hother (h ▸ hindex)
  simp [ScopeStack.modifyAt, hne]

/-- A stack that grows stays well formed. -/
theorem Grows.wellFormed {s t : ScopeStack} {opened : List (List Variable)}
    (h : s.Grows t opened) (hs : s.WellFormed) : t.WellFormed where
  stack_ne_nil := h.stack_eq ▸ hs.stack_ne_nil
  nodup := h.stack_eq ▸ hs.nodup
  lt_length := by
    intro index hindex
    rw [h.stack_eq] at hindex
    exact Nat.lt_of_lt_of_le (hs.lt_length index hindex) h.length_le

/-- What was opened first comes first. -/
theorem Grows.trans {s t u : ScopeStack} {opened opened' : List (List Variable)}
    (hst : s.Grows t opened) (htu : t.Grows u opened') (hs : s.WellFormed) :
    s.Grows u (opened ++ opened') := by
  have hlength := hst.length_le
  refine ⟨htu.stack_eq.trans hst.stack_eq, Nat.le_trans hlength htu.length_le, ?_, ?_⟩
  · intro index hindex hclosed
    rw [htu.closed_eq index (by omega) (hst.stack_eq ▸ hclosed), hst.closed_eq index hindex hclosed]
  · -- The scopes opened in the first part are closed by its end, so the second part keeps them.
    have hsplit : u.arena.drop s.arena.length =
        t.arena.drop s.arena.length ++ u.arena.drop t.arena.length := by
      apply List.ext_getElem?
      intro i
      rw [List.getElem?_drop]
      by_cases hi : s.arena.length + i < t.arena.length
      · have hclosed : s.arena.length + i ∉ t.stack := by
          rw [hst.stack_eq]
          intro hmem
          have := hs.lt_length _ hmem
          omega
        rw [List.getElem?_append_left (by simp; omega), List.getElem?_drop,
          htu.closed_eq _ hi hclosed]
      · have hindex : s.arena.length + i =
            t.arena.length + (i - (t.arena.drop s.arena.length).length) := by
          simp only [List.length_drop]
          omega
        rw [List.getElem?_append_right (by simp; omega), List.getElem?_drop, ← hindex]
    rw [hsplit, List.map_append, hst.opened_eq, htu.opened_eq]

/-- A scope that is entered, changed and left again is a new scope of the stack around it. -/
theorem Grows.leave {s t : ScopeStack} {scope : Scope} {opened : List (List Variable)}
    {own : List Variable} {outer : List (List Variable)} (h : (s.enter scope).Grows t opened)
    (hs : s.WellFormed) (hframes : t.frames = own :: outer) :
    s.Grows t.pop (own :: opened) ∧ t.pop.frames = outer := by
  have hstack : t.stack = s.arena.length :: s.stack := h.stack_eq
  have hpop : t.pop.stack = s.stack := by
    cases hrest : s.stack with
    | nil => exact absurd hrest hs.stack_ne_nil
    | cons index rest => simp [pop, popEntry, hstack, hrest]
  have hlength : s.arena.length + 1 ≤ t.arena.length := by
    simpa [ScopeStack.enter] using h.length_le
  simp only [frames, hstack, List.map_cons, List.cons.injEq] at hframes
  refine ⟨⟨hpop, by simp only [pop]; omega, ?_, ?_⟩, ?_⟩
  · intro index hindex hclosed
    have hne : index ≠ s.arena.length := by omega
    have hopen : index ∉ (s.enter scope).stack := by
      simp [ScopeStack.enter, hne, hclosed]
    have hkept := h.closed_eq index (by simp [ScopeStack.enter]; omega) hopen
    simpa [pop, ScopeStack.enter, List.getElem?_append_left hindex] using hkept
  · have hopened : (t.arena.drop (s.arena.length + 1)).map (·.declared) = opened := by
      simpa [ScopeStack.enter] using h.opened_eq
    have hown : (t.arena.get ⟨s.arena.length, hlength⟩).declared = own := by
      simpa [scopeAt, List.getElem?_eq_getElem hlength] using hframes.1
    change (t.arena.drop s.arena.length).map (·.declared) = own :: opened
    rw [List.drop_eq_getElem_cons hlength, List.map_cons, hopened]
    exact congrArg (· :: opened) hown
  · rw [← hframes.2]
    change t.pop.stack.map (fun index => (t.scopeAt index).declared) = _
    rw [hpop]

/-- What is left of a stack when its innermost entry is dropped. -/
theorem popEntry_suffix (stack : List Nat) : popEntry stack <:+ stack := by
  match stack with
  | [] => exact List.suffix_refl _
  | [_] => exact List.suffix_refl _
  | _ :: _ :: _ => exact List.suffix_cons _ _

/-- The last entry of a stack stays. -/
theorem popEntry_ne_nil {stack : List Nat} (hne : stack ≠ []) : popEntry stack ≠ [] := by
  match stack with
  | [] => exact hne
  | [_] => simp [popEntry]
  | _ :: _ :: _ => simp [popEntry]

end BrickLint.ScopeStack
