import BrickLint.Proofs.LexicalScope.Reference
import BrickLint.Proofs.ScopeStack

/-!
# Frames and lexical scopes

The operations of a scope stack, seen through its frames, are those of lexical scoping: a
declaration adds the variables that the innermost scope does not hold yet, and a use marks the
variable of the innermost scope that holds its name. Which errors there are does not depend on what
has been used so far.
-/

namespace BrickLint.LexicalScope

/-- Marks in each frame the variables that are used by their names and not hidden by a frame before
it. -/
def readFrames (used : String → Bool) : List (List Variable) → List (List Variable)
  | [] => []
  | own :: outer => markUsed used own :: readFrames (fun name => used name && !holds own name) outer

/-- A scope holds the names of its variables. -/
theorem holds_eq_any (scope : List Variable) (name : String) :
    holds scope name = scope.any fun v => v.name == name := by
  rw [Bool.eq_iff_iff, holds, lookup?, List.find?_isSome, List.any_eq_true]

/-- Marking does not change which names a scope holds. -/
@[simp] theorem holds_markUsed (used : String → Bool) (scope : List Variable) (name : String) :
    holds (markUsed used scope) name = holds scope name := by
  simp only [holds_eq_any, markUsed, List.any_map]
  congr 1
  funext v
  simp only [Function.comp_apply]
  split <;> rfl

/-- Marking nothing changes nothing. -/
@[simp] theorem markUsed_false (scope : List Variable) :
    markUsed (fun _ => false) scope = scope := by
  simp [markUsed]

/-- Marking twice is marking what either of the two marks. -/
theorem markUsed_markUsed (used used' : String → Bool) (scope : List Variable) :
    markUsed used' (markUsed used scope) =
      markUsed (fun name => used name || used' name) scope := by
  simp only [markUsed, List.map_map]
  apply List.map_congr_left
  intro v _
  by_cases h : used v.name <;> by_cases h' : used' v.name <;> simp [h, h']

/-- Marking distributes over the parts of a scope. -/
theorem markUsed_append (used : String → Bool) (scope scope' : List Variable) :
    markUsed used (scope ++ scope') = markUsed used scope ++ markUsed used scope' :=
  List.map_append

/-- Marking nothing changes no frame. -/
@[simp] theorem readFrames_false (frames : List (List Variable)) :
    readFrames (fun _ => false) frames = frames := by
  induction frames with
  | nil => rfl
  | cons own outer ih => simp [readFrames, ih]

/-- Marking frames twice is marking what either of the two marks. -/
theorem readFrames_readFrames (used used' : String → Bool) (frames : List (List Variable)) :
    readFrames used' (readFrames used frames) =
      readFrames (fun name => used name || used' name) frames := by
  induction frames generalizing used used' with
  | nil => rfl
  | cons own outer ih =>
    simp only [readFrames, markUsed_markUsed, holds_markUsed, ih, Bool.and_or_distrib_right]

/-- Marking does not change whether some frame holds a name. -/
theorem any_holds_readFrames (used : String → Bool) (frames : List (List Variable))
    (name : String) :
    (readFrames used frames).any (holds · name) = frames.any (holds · name) := by
  induction frames generalizing used with
  | nil => rfl
  | cons own outer ih => simp [readFrames, ih]

/-- The variables of a scope with all marks removed. -/
def unmarked (scope : List Variable) : List Variable :=
  scope.map fun v => { v with used := false }

/-- Removing marks undoes marking. -/
@[simp] theorem unmarked_markUsed (used : String → Bool) (scope : List Variable) :
    unmarked (markUsed used scope) = unmarked scope := by
  simp only [unmarked, markUsed, List.map_map]
  apply List.map_congr_left
  intro v _
  simp only [Function.comp_apply]
  split <;> rfl

/-- Removing marks distributes over the parts of a scope. -/
theorem unmarked_append (scope scope' : List Variable) :
    unmarked (scope ++ scope') = unmarked scope ++ unmarked scope' :=
  List.map_append

/-- Removing marks undoes marking, frame by frame. -/
theorem map_unmarked_readFrames (used : String → Bool) (frames : List (List Variable)) :
    (readFrames used frames).map unmarked = frames.map unmarked := by
  induction frames generalizing used with
  | nil => rfl
  | cons own outer ih => simp [readFrames, ih]

/-- A name has a variable without its mark exactly if it has one. -/
theorem lookup?_unmarked (scope : List Variable) (name : String) :
    lookup? (unmarked scope) name =
      (lookup? scope name).map fun v => { v with used := false } := by
  simp only [lookup?, unmarked, List.find?_map]
  rfl

/-- Removing marks does not change which names a scope holds. -/
@[simp] theorem holds_unmarked (scope : List Variable) (name : String) :
    holds (unmarked scope) name = holds scope name := by
  simp [holds, lookup?_unmarked]

/-- Removing marks from all scopes does not change which names they hold. -/
theorem any_holds_map_unmarked (frames : List (List Variable)) (name : String) :
    (frames.map unmarked).any (holds · name) = frames.any (holds · name) := by
  simp only [List.any_map, Function.comp_def, holds_unmarked]

/-- A scope that is extended holds its old names and the new one. -/
theorem holds_append (scope scope' : List Variable) (name : String) :
    holds (scope ++ scope') name = (holds scope name || holds scope' name) := by
  simp [holds_eq_any, List.any_append]

/-- What declarators add depends on the names of the scope only. -/
theorem newVariables_congr {scope scope' : List Variable}
    (h : ∀ name, holds scope name = holds scope' name) (declared : List Variable) :
    newVariables scope declared = newVariables scope' declared := by
  induction declared generalizing scope scope' with
  | nil => rfl
  | cons v rest ih =>
    have hmore : ∀ name, holds (scope ++ [v]) name = holds (scope' ++ [v]) name := by
      intro name
      rw [holds_append, holds_append, h]
    simp only [newVariables, h, ih h, ih hmore]

/-- What declarators add does not depend on marks. -/
@[simp] theorem newVariables_unmarked (scope declared : List Variable) :
    newVariables (unmarked scope) declared = newVariables scope declared :=
  newVariables_congr (holds_unmarked scope) declared

/-- What is wrong with declarators depends on the names of the scope and their lines only. -/
theorem declarationErrors_congr {scope scope' : List Variable}
    (h : ∀ name, (lookup? scope name).map (·.line) = (lookup? scope' name).map (·.line))
    (declared : List Variable) :
    declarationErrors scope declared = declarationErrors scope' declared := by
  induction declared generalizing scope scope' with
  | nil => rfl
  | cons v rest ih =>
    have hmore : ∀ name,
        (lookup? (scope ++ [v]) name).map (·.line) =
          (lookup? (scope' ++ [v]) name).map (·.line) := by
      intro name
      have hname := h name
      simp only [lookup?, List.find?_append] at hname ⊢
      rw [Option.map_or, Option.map_or, hname]
    have hv := h v.name
    simp only [declarationErrors]
    cases hfirst : lookup? scope v.name with
    | none =>
      have hother : lookup? scope' v.name = none := by simpa [hfirst] using hv.symm
      rw [hother]
      exact ih hmore
    | some first =>
      obtain ⟨other, hother, hline⟩ : ∃ other, lookup? scope' v.name = some other ∧
          other.line = first.line := by simpa [hfirst] using hv.symm
      rw [hother]
      simp only [hline, ih h]

/-- What is wrong with declarators does not depend on marks. -/
@[simp] theorem declarationErrors_unmarked (scope declared : List Variable) :
    declarationErrors (unmarked scope) declared = declarationErrors scope declared := by
  apply declarationErrors_congr
  intro name
  rw [lookup?_unmarked, Option.map_map]
  rfl

/-- What is wrong with a use does not depend on marks. -/
@[simp] theorem useErrors_unmarked (frames : List (List Variable)) (name : String)
    (line column : Nat) :
    useErrors (frames.map unmarked) name line column = useErrors frames name line column := by
  simp only [useErrors, any_holds_map_unmarked]

/-- What is wrong with a use does not depend on what has been used before. -/
@[simp] theorem useErrors_readFrames (used : String → Bool) (frames : List (List Variable))
    (name : String) (line column : Nat) :
    useErrors (readFrames used frames) name line column = useErrors frames name line column := by
  simp only [useErrors, any_holds_readFrames]

/-- Looking a name up in a scope is looking it up among its variables. -/
theorem find?_eq_lookup? (scope : Scope) (name : String) :
    scope.find? name = lookup? scope.declared name :=
  rfl

/-- Putting in place a variable whose name is new appends it. -/
theorem putVariable_of_not_holds {scope : List Variable} {v : Variable}
    (h : holds scope v.name = false) : putVariable v scope = scope ++ [v] := by
  induction scope with
  | nil => rfl
  | cons w rest ih =>
    simp only [holds_eq_any, List.any_cons, Bool.or_eq_false_iff, beq_eq_false_iff_ne] at h
    rw [putVariable, if_neg h.1, ih (by simpa [holds_eq_any] using h.2), List.cons_append]

/-- Declares a variable in the innermost scope unless the scope holds its name. -/
def declareNew (s : ScopeStack) (v : Variable) : ScopeStack :=
  if holds s.current.declared v.name then s else s.declare v

/-- A declaration adds the variable to the innermost frame if its name is new there. -/
theorem frames_declareNew {s : ScopeStack} (hs : s.WellFormed) (v : Variable) :
    (declareNew s v).frames =
      (s.current.declared ++ newVariables s.current.declared [v]) :: s.frames.tail := by
  unfold declareNew
  cases h : holds s.current.declared v.name with
  | true => simpa [newVariables, h] using ScopeStack.frames_eq_cons hs
  | false =>
    simp only [Bool.false_eq_true, if_false, ScopeStack.declare, newVariables, h]
    rw [ScopeStack.frames_modifyCurrent hs, Scope.declare, putVariable_of_not_holds h]

/-- Marking a name that a scope does not hold changes nothing. -/
theorem markUsed_of_not_holds {scope : List Variable} {name : String}
    (h : holds scope name = false) : markUsed (· == name) scope = scope := by
  rw [holds_eq_any, List.any_eq_false] at h
  conv_rhs => rw [← List.map_id scope]
  apply List.map_congr_left
  intro v hv
  simp [h v hv]

/-- A frame that holds a name hides it from the frames behind it. -/
theorem readFrames_cons_of_holds {own : List Variable} {name : String}
    (h : holds own name = true) (outer : List (List Variable)) :
    readFrames (· == name) (own :: outer) = markUsed (· == name) own :: outer := by
  have hnone : (fun other => other == name && !holds own other) = fun _ => false := by
    funext other
    by_cases hother : other = name <;> simp [hother, h]
  rw [readFrames, hnone, readFrames_false]

/-- A frame that does not hold a name is passed over. -/
theorem readFrames_cons_of_not_holds {own : List Variable} {name : String}
    (h : holds own name = false) (outer : List (List Variable)) :
    readFrames (· == name) (own :: outer) = own :: readFrames (· == name) outer := by
  have hsame : (fun other => other == name && !holds own other) = (· == name) := by
    funext other
    by_cases hother : other = name <;> simp [hother, h]
  rw [readFrames, hsame, markUsed_of_not_holds h]

/-- Marking in the first of several open scopes that holds a name, seen through their frames. -/
theorem map_declared_markUsed {s : ScopeStack} {name : String} {index : Nat} {v : Variable}
    {stack : List Nat} (hnodup : stack.Nodup) (hlength : ∀ i ∈ stack, i < s.arena.length)
    (hfind : stack.findSome? (fun i => ((s.scopeAt i).find? name).map (i, ·)) = some (index, v)) :
    index ∈ stack ∧ stack.map (fun i => ((s.markUsed index name).scopeAt i).declared) =
      readFrames (· == name) (stack.map fun i => (s.scopeAt i).declared) := by
  induction stack with
  | nil => simp at hfind
  | cons first rest ih =>
    obtain ⟨hfirst, hrest⟩ := List.nodup_cons.mp hnodup
    rw [List.findSome?_cons] at hfind
    cases hheld : (s.scopeAt first).find? name with
    | some w =>
      -- The first scope holds the name, so it is the one that is marked.
      obtain ⟨rfl, rfl⟩ : first = index ∧ w = v := by simpa [hheld] using hfind
      have hother : ∀ i ∈ rest, ((s.markUsed first name).scopeAt i).declared =
          (s.scopeAt i).declared := by
        intro i hi
        have hne : first ≠ i := fun h => hfirst (h ▸ hi)
        exact congrArg Scope.declared (ScopeStack.scopeAt_modifyAt_ne s hne (·.markUsed name))
      have hself : (s.markUsed first name).scopeAt first = (s.scopeAt first).markUsed name :=
        ScopeStack.scopeAt_modifyAt_self (hlength first List.mem_cons_self) (·.markUsed name)
      have hholds : holds (s.scopeAt first).declared name = true := by
        simp [holds, ← find?_eq_lookup?, hheld]
      refine ⟨List.mem_cons_self, ?_⟩
      rw [List.map_cons, List.map_cons, hself, List.map_congr_left hother,
        readFrames_cons_of_holds hholds]
      simp [Scope.markUsed, markUsed]
    | none =>
      have hfind' : rest.findSome? (fun i => ((s.scopeAt i).find? name).map (i, ·)) =
          some (index, v) := by simpa [hheld] using hfind
      obtain ⟨hmem, hmap⟩ :=
        ih hrest (fun i hi => hlength i (List.mem_cons_of_mem _ hi)) hfind'
      have hne : index ≠ first := fun h => hfirst (h ▸ hmem)
      have hself : (s.markUsed index name).scopeAt first = s.scopeAt first :=
        ScopeStack.scopeAt_modifyAt_ne s hne (·.markUsed name)
      have hholds : holds (s.scopeAt first).declared name = false := by
        simp [holds, ← find?_eq_lookup?, hheld]
      refine ⟨List.mem_cons_of_mem _ hmem, ?_⟩
      rw [List.map_cons, List.map_cons, hself, hmap, readFrames_cons_of_not_holds hholds]

/-- A name that no frame holds marks nothing. -/
theorem readFrames_of_not_holds {frames : List (List Variable)} {name : String}
    (h : frames.any (holds · name) = false) : readFrames (· == name) frames = frames := by
  induction frames with
  | nil => rfl
  | cons own outer ih =>
    simp only [List.any_cons, Bool.or_eq_false_iff] at h
    rw [readFrames_cons_of_not_holds h.1, ih h.2]

/-- A name is found exactly if some frame holds it. -/
theorem find?_isSome (s : ScopeStack) (name : String) :
    (s.find? name).isSome = s.frames.any (holds · name) := by
  simp only [ScopeStack.find?, ScopeStack.frames, List.any_map]
  induction s.stack with
  | nil => rfl
  | cons index rest ih =>
    rw [List.findSome?_cons, List.any_cons, ← ih]
    cases h : (s.scopeAt index).find? name <;> simp [holds, ← find?_eq_lookup?, h]

/-- A use marks the variable of the innermost frame that holds its name. -/
theorem frames_use {s : ScopeStack} (hs : s.WellFormed) (name : String) :
    (s.use name).frames = readFrames (· == name) s.frames := by
  unfold ScopeStack.use
  cases hfind : s.find? name with
  | none =>
    have hheld : s.frames.any (holds · name) = false := by simp [← find?_isSome, hfind]
    exact (readFrames_of_not_holds hheld).symm
  | some found => exact (map_declared_markUsed hs.nodup hs.lt_length hfind).2

/-- A declaration opens no scope. -/
theorem grows_declareNew {s : ScopeStack} (hs : s.WellFormed) (v : Variable) :
    s.Grows (declareNew s v) [] := by
  unfold declareNew
  split
  · exact .refl s
  · cases hstack : s.stack with
    | nil => exact absurd hstack hs.stack_ne_nil
    | cons index rest =>
      have hindex : s.currentIndex = index := by simp [ScopeStack.currentIndex, hstack]
      exact .modifyAt (by simp [hstack, hindex]) _

/-- A use opens no scope. -/
theorem grows_use {s : ScopeStack} (hs : s.WellFormed) (name : String) :
    s.Grows (s.use name) [] := by
  unfold ScopeStack.use
  cases hfind : s.find? name with
  | none => exact .refl s
  | some found => exact .modifyAt (map_declared_markUsed hs.nodup hs.lt_length hfind).1 _

end BrickLint.LexicalScope
