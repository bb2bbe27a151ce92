import BrickLint.Declaration.Walk
import Mathlib.Data.List.Basic

/-!
# Sibling branches exclude each other

A compiler chooses one branch of every conditional group, and a place in the text is live when all
branches around it are chosen. Two moments of one sequence of directives are in sibling branches
exactly if no choice leaves both of them live. The reason is how paths change: whatever was open at
the earlier moment and still is, is open below everything that was opened since, and only the
innermost group of it can have moved on to another branch.
-/

namespace BrickLint

/-- All branches around a place are the chosen ones of their groups. -/
def IsLive (choice : Int → Int) (path : List Branch) : Prop :=
  ∀ b ∈ path, choice b.group = b.branch

/-- Some choice of one branch in every group leaves both of two places live. -/
def CanBothBeLive (p q : List Branch) : Prop :=
  ∃ choice, IsLive choice p ∧ IsLive choice q

/-- It does not matter which place comes first. -/
theorem canBothBeLive_comm (p q : List Branch) : CanBothBeLive p q ↔ CanBothBeLive q p :=
  exists_congr fun _ => and_comm

/-- Branches of different groups can all be chosen. -/
theorem exists_isLive {path : List Branch} (hgroups : path.Pairwise (·.group ≠ ·.group)) :
    ∃ choice, IsLive choice path := by
  induction path with
  | nil => exact ⟨fun _ => 0, by simp [IsLive]⟩
  | cons b path ih =>
    obtain ⟨hfirst, hrest⟩ := List.pairwise_cons.mp hgroups
    obtain ⟨choice, hchoice⟩ := ih hrest
    refine ⟨fun group => if group = b.group then b.branch else choice group, ?_⟩
    intro other hother
    rcases List.mem_cons.mp hother with rfl | hother
    · simp
    · have hne : other.group ≠ b.group := (hfirst other hother).symm
      simp [hne, hchoice other hother]

/-- Two places whose branches are all of different groups, apart from the branches that they share,
can both be live. -/
theorem canBothBeLive_of_groups {common p q : List Branch}
    (hgroups : (common ++ p ++ q).Pairwise (·.group ≠ ·.group)) :
    CanBothBeLive (common ++ p) (common ++ q) := by
  obtain ⟨choice, hchoice⟩ := exists_isLive hgroups
  refine ⟨choice, fun b hb => hchoice b ?_, fun b hb => hchoice b ?_⟩
  · exact List.mem_append_left _ hb
  · rcases List.mem_append.mp hb with hb | hb
    · simp [hb]
    · simp [hb]

/-- Two places in different branches of one group are not both live. -/
theorem not_canBothBeLive {p q : List Branch} {a b : Branch} (ha : a ∈ p) (hb : b ∈ q)
    (hgroup : a.group = b.group) (hbranch : a.branch ≠ b.branch) : ¬CanBothBeLive p q := by
  rintro ⟨choice, hp, hq⟩
  have hchosen : a.branch = b.branch := by rw [← hp a ha, ← hq b hb, hgroup]
  exact hbranch hchosen

/-- It does not matter which path comes first. -/
theorem inSiblingBranches_comm (p q : List Branch) :
    inSiblingBranches p q = inSiblingBranches q p := by
  fun_induction inSiblingBranches p q with
  | case1 a p b q hgroup => simp [inSiblingBranches, Ne.symm hgroup]
  | case2 a p b q hgroup hbranch =>
    simp only [ne_eq, not_not] at hgroup
    simp [inSiblingBranches, hgroup, Ne.symm hbranch]
  | case3 a p b q hgroup hbranch ih =>
    simp only [ne_eq, not_not] at hgroup hbranch
    simp [inSiblingBranches, hgroup, hbranch, ih]
  | case4 p q hempty =>
    cases p with
    | nil => cases q <;> rfl
    | cons a p =>
      cases q with
      | nil => rfl
      | cons b q => exact absurd rfl (hempty a p b q rfl)

/-- Branches that two paths share at their starts are passed over. -/
theorem inSiblingBranches_append (common p q : List Branch) :
    inSiblingBranches (common ++ p) (common ++ q) = inSiblingBranches p q := by
  induction common with
  | nil => rfl
  | cons b common ih => simpa [inSiblingBranches] using ih

/-- Paths without a group in common are not siblings. -/
theorem inSiblingBranches_of_groups {p q : List Branch}
    (hgroups : ∀ a ∈ p, ∀ b ∈ q, a.group ≠ b.group) : inSiblingBranches p q = false := by
  cases p with
  | nil => cases q <;> rfl
  | cons a p =>
    cases q with
    | nil => rfl
    | cons b q =>
      have hne := hgroups a List.mem_cons_self b List.mem_cons_self
      simp [inSiblingBranches, hne]

/-- Paths that part in one group are siblings. -/
theorem inSiblingBranches_of_parted (common : List Branch) {a b : Branch} (p q : List Branch)
    (hgroup : a.group = b.group) (hbranch : a.branch ≠ b.branch) :
    inSiblingBranches (common ++ a :: p) (common ++ b :: q) = true := by
  rw [inSiblingBranches_append]
  simp [inSiblingBranches, hgroup, hbranch]

namespace Conditionals

/-- Groups are numbered in the order in which they are opened. -/
structure IsNumbered (c : Conditionals) : Prop where
  /-- The numbers of open groups have been given out. -/
  lt_next : ∀ b ∈ c.enclosing, b.group < c.nextGroup
  /-- An inner group has a larger number. -/
  decreasing : c.enclosing.Pairwise fun inner outer => outer.group < inner.group

/-- Without open groups there is nothing to number. -/
theorem isNumbered_initial : IsNumbered {} :=
  ⟨by simp, List.Pairwise.nil⟩

/-- A step keeps the groups numbered. -/
theorem IsNumbered.perform {c : Conditionals} (h : c.IsNumbered) (step : ConditionalStep) :
    (c.perform step).IsNumbered := by
  obtain ⟨hlt, hdecreasing⟩ := h
  cases step with
  | enter =>
    refine ⟨fun b hb => ?_, List.pairwise_cons.mpr ⟨hlt, hdecreasing⟩⟩
    change b.group < ((c.nextGroup + 1 : Nat) : Int)
    rcases List.mem_cons.mp hb with rfl | hb
    · dsimp only
      omega
    · have := hlt b hb
      omega
  | next =>
    cases henclosing : c.enclosing with
    | nil =>
      simp only [Conditionals.perform, henclosing]
      exact ⟨hlt, hdecreasing⟩
    | cons b outer =>
      rw [henclosing] at hlt hdecreasing
      simp only [Conditionals.perform, henclosing]
      obtain ⟨hfirst, hrest⟩ := List.forall_mem_cons.mp hlt
      obtain ⟨hless, houter⟩ := List.pairwise_cons.mp hdecreasing
      exact ⟨List.forall_mem_cons.mpr ⟨hfirst, hrest⟩, List.pairwise_cons.mpr ⟨hless, houter⟩⟩
  | leave =>
    exact ⟨fun b hb => hlt b (List.mem_of_mem_tail hb), hdecreasing.tail⟩

/-- Along a path the numbers of the groups increase. -/
theorem IsNumbered.increasing {c : Conditionals} (h : c.IsNumbered) :
    c.path.Pairwise fun outer inner => outer.group < inner.group :=
  List.pairwise_reverse.mpr h.decreasing

/-- The numbers of the groups of a path have been given out. -/
theorem IsNumbered.lt_next_of_mem_path {c : Conditionals} (h : c.IsNumbered) {b : Branch}
    (hb : b ∈ c.path) : b.group < c.nextGroup :=
  h.lt_next b (List.mem_reverse.mp hb)

/-- What is left of the open groups, innermost first, at a later moment: none, or some outermost
ones, of which the innermost may have moved on to another branch. -/
inductive Remains (earlier : List Branch) : List Branch → Prop
  /-- All groups have been closed. -/
  | none : Remains earlier []
  /-- Some groups have stayed open. -/
  | some {b : Branch} {outer : List Branch} (hopen : b :: outer <:+ earlier) {branch : Int}
      (hbranch : b.branch ≤ branch) : Remains earlier (⟨b.group, branch⟩ :: outer)

/-- The second moment comes after the first: above what remains of the groups that were open, there
are only groups that have been opened since. -/
structure Later (c c' : Conditionals) : Prop where
  /-- Numbers are not given out again. -/
  next_le : c.nextGroup ≤ c'.nextGroup
  /-- The open groups are new ones above remaining ones. -/
  enclosing_eq : ∃ fresh kept, c'.enclosing = fresh ++ kept ∧
    (∀ b ∈ fresh, (c.nextGroup : Int) ≤ b.group) ∧ Remains c.enclosing kept

variable {c c' c'' : Conditionals}

/-- Without a step everything remains. -/
theorem Later.refl (c : Conditionals) : c.Later c := by
  refine ⟨Nat.le_refl _, [], c.enclosing, rfl, by simp, ?_⟩
  cases c.enclosing with
  | nil => exact .none
  | cons b outer => exact .some (List.suffix_refl _) (Int.le_refl b.branch)

/-- A step leads to a later moment. -/
theorem Later.perform (h : c.Later c') (step : ConditionalStep) : c.Later (c'.perform step) := by
  obtain ⟨hnext, fresh, kept, henclosing, hfresh, hkept⟩ := h
  cases step with
  | enter =>
    refine ⟨Nat.le_succ_of_le hnext, ⟨c'.nextGroup, 0⟩ :: fresh, kept, ?_, ?_, hkept⟩
    · simp [Conditionals.perform, henclosing]
    · exact List.forall_mem_cons.mpr ⟨by simpa using hnext, hfresh⟩
  | next =>
    cases fresh with
    | cons b fresh =>
      obtain ⟨hfirst, hrest⟩ := List.forall_mem_cons.mp hfresh
      simp only [Conditionals.perform, henclosing, List.cons_append]
      refine ⟨hnext, ⟨b.group, b.branch + 1⟩ :: fresh, kept, rfl, ?_, hkept⟩
      exact List.forall_mem_cons.mpr ⟨hfirst, hrest⟩
    | nil =>
      rw [List.nil_append] at henclosing
      cases hkept with
      | none =>
        simp only [Conditionals.perform, henclosing]
        exact ⟨hnext, [], [], henclosing, by simp, .none⟩
      | @some b outer hopen branch hbranch =>
        simp only [Conditionals.perform, henclosing]
        exact ⟨hnext, [], _, rfl, by simp, .some hopen (by omega)⟩
  | leave =>
    cases fresh with
    | cons b fresh =>
      refine ⟨hnext, fresh, kept, by simp [Conditionals.perform, henclosing], ?_, hkept⟩
      exact (List.forall_mem_cons.mp hfresh).2
    | nil =>
      rw [List.nil_append] at henclosing
      cases hkept with
      | none => exact ⟨hnext, [], [], by simp [Conditionals.perform, henclosing], by simp, .none⟩
      | @some b outer hopen branch hbranch =>
        refine ⟨hnext, [], outer, by simp [Conditionals.perform, henclosing], by simp, ?_⟩
        have houter : outer <:+ c.enclosing := (List.suffix_cons b outer).trans hopen
        cases outer with
        | nil => exact .none
        | cons d rest => exact .some houter (Int.le_refl d.branch)

/-- Two moments of which the second is later: the later path agrees with the earlier one up to new
groups, or it parts from it in a group that has moved on. -/
theorem Later.cases_path (h : c.Later c') :
    ∃ common p q, (∀ b ∈ q, (c.nextGroup : Int) ≤ b.group) ∧
      ((c.path = common ++ p ∧ c'.path = common ++ q) ∨
        ∃ b branch, b.branch < branch ∧ c.path = common ++ b :: p ∧
          c'.path = common ++ ⟨b.group, branch⟩ :: q) := by
  obtain ⟨_, fresh, kept, henclosing, hfresh, hkept⟩ := h
  have hnew : ∀ b ∈ fresh.reverse, (c.nextGroup : Int) ≤ b.group :=
    fun b hb => hfresh b (List.mem_reverse.mp hb)
  cases hkept with
  | none => exact ⟨[], c.path, fresh.reverse, hnew, Or.inl ⟨rfl, by simp [path, henclosing]⟩⟩
  | @some b outer hopen branch hbranch =>
    obtain ⟨inner, hinner⟩ := hopen
    have hpath : c.path = outer.reverse ++ b :: inner.reverse := by simp [path, ← hinner]
    have hpath' : c'.path = outer.reverse ++ ⟨b.group, branch⟩ :: fresh.reverse := by
      simp [path, henclosing]
    rcases Int.lt_or_eq_of_le hbranch with hlt | rfl
    · exact ⟨outer.reverse, inner.reverse, fresh.reverse, hnew,
        Or.inr ⟨b, branch, hlt, hpath, hpath'⟩⟩
    · exact ⟨outer.reverse ++ [b], inner.reverse, fresh.reverse, hnew,
        Or.inl ⟨by simpa using hpath, by simpa using hpath'⟩⟩

/-- A place and a later one are in sibling branches exactly if they are never both live. -/
theorem Later.inSiblingBranches_iff (h : c.Later c') (hc : c.IsNumbered) (hc' : c'.IsNumbered) :
    inSiblingBranches c.path c'.path = true ↔ ¬CanBothBeLive c.path c'.path := by
  obtain ⟨common, p, q, hnew, ⟨hpath, hpath'⟩ | ⟨b, branch, hlt, hpath, hpath'⟩⟩ := h.cases_path
  · -- New groups have numbers that no group of the earlier path has, so nothing excludes anything.
    have hapart : ∀ a ∈ c.path, ∀ b ∈ q, a.group ≠ b.group := by
      intro a ha b hb
      have := hc.lt_next_of_mem_path ha
      have := hnew b hb
      omega
    have hgroups : (common ++ p ++ q).Pairwise (·.group ≠ ·.group) := by
      rw [← hpath]
      refine List.pairwise_append.mpr ⟨?_, ?_, hapart⟩
      · exact hc.increasing.imp fun hless => Int.ne_of_lt hless
      · have hincreasing := hc'.increasing
        rw [hpath'] at hincreasing
        exact (List.pairwise_append.mp hincreasing).2.1.imp fun hless => Int.ne_of_lt hless
    have hnot : inSiblingBranches c.path c'.path = false := by
      rw [hpath, hpath', inSiblingBranches_append]
      exact inSiblingBranches_of_groups fun a ha => hapart a (by simp [hpath, ha])
    have hboth : CanBothBeLive c.path c'.path := by
      rw [hpath, hpath']
      exact canBothBeLive_of_groups hgroups
    simp [hnot, hboth]
  · have hsiblings : inSiblingBranches c.path c'.path = true := by
      rw [hpath, hpath']
      exact inSiblingBranches_of_parted common p q rfl (Int.ne_of_lt hlt)
    have hexclusive : ¬CanBothBeLive c.path c'.path :=
      not_canBothBeLive (a := b) (b := ⟨b.group, branch⟩) (by simp [hpath]) (by simp [hpath']) rfl
        (Int.ne_of_lt hlt)
    exact iff_of_true hsiblings hexclusive

/-- A place between two sibling branches is in a sibling branch of one of the two. -/
theorem Later.inSiblingBranches_between (hfirst : c.Later c') (hsecond : c'.Later c'')
    (hthrough : c.Later c'') (hc : c.IsNumbered) (h : inSiblingBranches c.path c''.path = true) :
    inSiblingBranches c.path c'.path = true ∨ inSiblingBranches c'.path c''.path = true := by
  obtain ⟨common', p', q', hnew', ⟨hpath', hpath''⟩ | ⟨b', branch', hlt', hpath', hpath''⟩⟩ :=
    hsecond.cases_path
  swap
  · right
    rw [hpath', hpath'']
    exact inSiblingBranches_of_parted common' p' q' rfl (Int.ne_of_lt hlt')
  -- Otherwise the branch that the last path has in the group is already in the path between.
  left
  obtain ⟨common, p, q, hnew, ⟨hpath, hlast⟩ | ⟨b, branch, hlt, hpath, hlast⟩⟩ :=
    hthrough.cases_path
  · rw [hpath, hlast, inSiblingBranches_append, inSiblingBranches_of_groups] at h
    · simp at h
    · intro a ha b hb
      have := hc.lt_next_of_mem_path (b := a) (by simp [hpath, ha])
      have := hnew b hb
      omega
  · have hold : (⟨b.group, branch⟩ : Branch) ∉ q' := by
      intro hmem
      have := hc.lt_next_of_mem_path (b := b) (by simp [hpath])
      have := hnew' _ hmem
      have := hfirst.next_le
      dsimp only at *
      omega
    have hshared : ∃ rest, common' = common ++ ⟨b.group, branch⟩ :: rest := by
      rcases List.append_eq_append_iff.mp (hpath''.symm.trans hlast) with
        ⟨rest, rfl, hrest⟩ | ⟨rest, rfl, hrest⟩
      · have hmem : (⟨b.group, branch⟩ : Branch) ∈ q' := by simp [hrest]
        exact absurd hmem hold
      · cases rest with
        | nil =>
          rw [List.nil_append] at hrest
          exact absurd (hrest ▸ List.mem_cons_self) hold
        | cons d rest =>
          obtain ⟨rfl, _⟩ := List.cons.inj hrest
          exact ⟨rest, rfl⟩
    obtain ⟨rest, hshared⟩ := hshared
    rw [hpath, hpath', hshared, List.append_assoc, List.cons_append]
    exact inSiblingBranches_of_parted common _ _ rfl (Int.ne_of_lt hlt)

/-- Follows directives one after another. -/
def follow (c : Conditionals) (directives : List String) : Conditionals :=
  directives.foldl Conditionals.apply c

/-- Directives keep the groups numbered. -/
theorem IsNumbered.follow (h : c.IsNumbered) (directives : List String) :
    (c.follow directives).IsNumbered := by
  induction directives generalizing c with
  | nil => exact h
  | cons directive directives ih =>
    have hfirst : (c.apply directive).IsNumbered := by
      unfold Conditionals.apply
      cases ConditionalStep.ofName? directive with
      | none => exact h
      | some step => exact h.perform step
    exact ih hfirst

/-- Directives lead to a later moment. -/
theorem Later.follow (h : c.Later c') (directives : List String) :
    c.Later (c'.follow directives) := by
  induction directives generalizing c' with
  | nil => exact h
  | cons directive directives ih =>
    have hfirst : c.Later (c'.apply directive) := by
      unfold Conditionals.apply
      cases ConditionalStep.ofName? directive with
      | none => exact h
      | some step => exact h.perform step
    exact ih hfirst

/-- Directives follow each other. -/
theorem follow_append (c : Conditionals) (directives more : List String) :
    c.follow (directives ++ more) = (c.follow directives).follow more :=
  List.foldl_append

/-- More directives lead to a later moment. -/
theorem later_of_isPrefix (c : Conditionals) {directives more : List String}
    (h : directives <+: more) : (c.follow directives).Later (c.follow more) := by
  obtain ⟨rest, rfl⟩ := h
  rw [follow_append]
  exact (Later.refl _).follow rest

end Conditionals

/-- The path after the first `moment` of some directives. -/
def pathAt (directives : List String) (moment : Nat) : List Branch :=
  (Conditionals.follow {} (directives.take moment)).path

/-- Two moments of one sequence of directives are in sibling branches exactly if no choice of one
branch in every group leaves both of them live. So a second declaration of a variable is tolerated
exactly if at most one of the two can be compiled. -/
theorem siblings_iff_exclusive (directives : List String) (i j : Nat) :
    (inSiblingBranches (pathAt directives i) (pathAt directives j) = true ↔
      ¬CanBothBeLive (pathAt directives i) (pathAt directives j)) ∧
    ∀ (catalog : Catalog) (config : Config) (w : Walk) (first second : Variable),
      w.scopes.current.find? second.name = some first → first.path = pathAt directives i →
        second.path = pathAt directives j →
          ((w.declare catalog config second).findings = w.findings ↔
            ¬CanBothBeLive first.path second.path) := by
  have hordered : ∀ {i j : Nat}, i ≤ j →
      (inSiblingBranches (pathAt directives i) (pathAt directives j) = true ↔
        ¬CanBothBeLive (pathAt directives i) (pathAt directives j)) := by
    intro i j hij
    have hbegins : directives.take i <+: directives.take j := List.take_prefix_take_left hij
    exact (Conditionals.later_of_isPrefix {} hbegins).inSiblingBranches_iff
      (Conditionals.isNumbered_initial.follow _) (Conditionals.isNumbered_initial.follow _)
  have hiff : inSiblingBranches (pathAt directives i) (pathAt directives j) = true ↔
      ¬CanBothBeLive (pathAt directives i) (pathAt directives j) := by
    rcases Nat.le_total i j with hij | hji
    · exact hordered hij
    · rw [inSiblingBranches_comm, canBothBeLive_comm]
      exact hordered hji
  refine ⟨hiff, fun catalog config w first second hfind hfirst hsecond => ?_⟩
  rw [hfirst, hsecond, ← hiff, ← hfirst, ← hsecond]
  simp only [Walk.declare, hfind]
  split
  case isTrue hsiblings => simp [hsiblings]
  case isFalse hsiblings => simp [hsiblings, Walk.report]

/-- A group of two branches and the start of another group. -/
def twoGroups : List String :=
  ["ifdef", "else", "endif", "if"]

/-- The two branches of the first group are never both live, and each can be live together with the
second group; so a variable of the first branch may be declared again in the second branch, and not
in the second group. -/
theorem siblings_iff_exclusive_twoGroups :
    ¬CanBothBeLive (pathAt twoGroups 1) (pathAt twoGroups 2) ∧
      CanBothBeLive (pathAt twoGroups 1) (pathAt twoGroups 4) ∧
      ∃ (catalog : Catalog) (config : Config) (w : Walk) (first second : Variable),
        w.scopes.current.find? second.name = some first ∧ first.path = pathAt twoGroups 1 ∧
          second.path = pathAt twoGroups 4 ∧
            (w.declare catalog config second).findings ≠ w.findings := by
  let first : Variable := { name := "x", line := 1, column := 4, path := pathAt twoGroups 1 }
  let second : Variable := { name := "x", line := 5, column := 4, path := pathAt twoGroups 4 }
  let w : Walk := { scopes := ScopeStack.declare {} first }
  have hexclusive := (siblings_iff_exclusive twoGroups 1 2).1.mp (by decide)
  obtain ⟨hsiblings, hdeclare⟩ := siblings_iff_exclusive twoGroups 1 4
  have hboth : CanBothBeLive (pathAt twoGroups 1) (pathAt twoGroups 4) := by
    by_contra hnot
    exact absurd (hsiblings.mpr hnot) (by decide)
  refine ⟨hexclusive, hboth, ⟨[], [], [], [], "", false⟩, {}, w, first, second, rfl, rfl, rfl, ?_⟩
  intro htolerated
  exact (hdeclare _ _ w first second rfl rfl rfl).mp htolerated hboth

end BrickLint
