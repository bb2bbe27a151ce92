import BrickLint.Proofs.FunctionTable
import Mathlib.Data.List.Basic
import Mathlib.Data.List.Induction

/-!
# The header that stands for a function

Of all headers of a function one stands in the table: the first definition outside conditions, or
else the first definition, or else the first prototype. It stands where the first header of the
function was put. A later header takes its place only if it weighs more, a prototype weighing less
than a definition under a condition and this less than a definition outside conditions.
-/

namespace BrickLint

namespace FunctionDecl

/-- The header is a definition. -/
def isDefinition (h : FunctionDecl) : Bool :=
  !h.isPrototype

/-- The header is a definition outside conditions. -/
def isFirm (h : FunctionDecl) : Bool :=
  h.isDefinition && !h.conditional

/-- What a header weighs against other headers of its function. -/
def weight (h : FunctionDecl) : Nat :=
  if h.isFirm then 2 else if h.isDefinition then 1 else 0

variable {h : FunctionDecl}

/-- A header is a prototype if it is no definition. -/
theorem isPrototype_eq_true (hh : h.isDefinition = false) : h.isPrototype = true := by
  simpa [isDefinition] using hh

/-- A definition outside conditions is a definition. -/
theorem isDefinition_of_isFirm (hh : h.isFirm = true) : h.isDefinition = true :=
  (Bool.and_eq_true_iff.mp hh).1

/-- A definition outside conditions weighs most. -/
theorem weight_of_isFirm (hh : h.isFirm = true) : h.weight = 2 :=
  if_pos hh

/-- A definition under a condition weighs less. -/
theorem weight_of_isDefinition (hh : h.isDefinition = true) (hfirm : h.isFirm = false) :
    h.weight = 1 := by
  simp [weight, hh, hfirm]

/-- A prototype weighs least. -/
theorem weight_of_not_isDefinition (hh : h.isDefinition = false) : h.weight = 0 := by
  simp [weight, isFirm, hh]

/-- Nothing weighs more than a definition outside conditions. -/
theorem weight_le_two (h : FunctionDecl) : h.weight ≤ 2 := by
  unfold weight
  split
  · exact Nat.le_refl 2
  split <;> omega

end FunctionDecl

/-- The header that stands for a function with the given headers. -/
def standing? (headers : List FunctionDecl) : Option FunctionDecl :=
  (headers.find? (·.isFirm)).or
    ((headers.find? (·.isDefinition)).or (headers.find? (·.isPrototype)))

/-- The header that stands for the function of a name. -/
def standingFor? (headers : List FunctionDecl) (name : String) : Option FunctionDecl :=
  standing? (headers.filter (·.name == name))

/-- The functions of some headers, in the order of their first headers. -/
def standingFunctions (headers : List FunctionDecl) : List FunctionDecl :=
  (headers.map (·.name)).eraseDups.filterMap (standingFor? headers)

/-- The header that stands after one more header. -/
def outweighed (h : FunctionDecl) : Option FunctionDecl → FunctionDecl
  | none => h
  | some standing => if standing.weight < h.weight then h else standing

/-- The header that stands is one of the headers. -/
theorem mem_of_standing? {headers : List FunctionDecl} {h : FunctionDecl}
    (hstanding : standing? headers = some h) : h ∈ headers := by
  rcases Option.or_eq_some_iff.mp hstanding with hfirm | ⟨_, hrest⟩
  · exact List.mem_of_find?_eq_some hfirm
  rcases Option.or_eq_some_iff.mp hrest with hdefinition | ⟨_, hprototype⟩
  · exact List.mem_of_find?_eq_some hdefinition
  · exact List.mem_of_find?_eq_some hprototype

/-- A later header stands if it weighs more than the one that stands before it. -/
theorem standing?_concat (headers : List FunctionDecl) (h : FunctionDecl) :
    standing? (headers ++ [h]) = some (outweighed h (standing? headers)) := by
  have hlast : ∀ p : FunctionDecl → Bool,
      (headers ++ [h]).find? p = (headers.find? p).or (if p h then some h else none) := by
    intro p
    rw [List.find?_append, List.find?_singleton]
  simp only [standing?, hlast]
  -- The cases are those of the headers before: the last one is compared with what stands.
  cases hfirm : headers.find? (·.isFirm) with
  | some e =>
    have he := FunctionDecl.weight_of_isFirm (List.find?_some hfirm)
    have hle : ¬e.weight < h.weight := by
      have hmost := h.weight_le_two
      omega
    simp [outweighed, hle]
  | none =>
    cases hdefinition : headers.find? (·.isDefinition) with
    | some e =>
      have hnot : e.isFirm = false := by
        simpa using List.find?_eq_none.mp hfirm e (List.mem_of_find?_eq_some hdefinition)
      have he := FunctionDecl.weight_of_isDefinition (List.find?_some hdefinition) hnot
      cases hh : h.isFirm with
      | true =>
        have hlt : e.weight < h.weight := by
          rw [he, FunctionDecl.weight_of_isFirm hh]
          omega
        simp [outweighed, hlt]
      | false =>
        have hle : ¬e.weight < h.weight := by
          rw [he, FunctionDecl.weight, if_neg (by simp [hh])]
          split <;> omega
        simp [outweighed, hle]
    | none =>
      cases hprototype : headers.find? (·.isPrototype) with
      | some e =>
        have hnot : e.isDefinition = false := by
          simpa using List.find?_eq_none.mp hdefinition e (List.mem_of_find?_eq_some hprototype)
        have he := FunctionDecl.weight_of_not_isDefinition hnot
        cases hh : h.isDefinition with
        | true =>
          have hlt : e.weight < h.weight := by
            cases hfirm' : h.isFirm with
            | true => rw [he, FunctionDecl.weight_of_isFirm hfirm']; omega
            | false => rw [he, FunctionDecl.weight_of_isDefinition hh hfirm']; omega
          cases h.isFirm <;> simp [outweighed, hlt]
        | false =>
          have hle : ¬e.weight < h.weight := by
            rw [FunctionDecl.weight_of_not_isDefinition hh]
            omega
          simp [outweighed, hle, FunctionDecl.isFirm, hh]
      | none =>
        cases hh : h.isDefinition with
        | true => cases h.isFirm <;> simp [outweighed]
        | false => simp [outweighed, FunctionDecl.isFirm, hh, FunctionDecl.isPrototype_eq_true hh]

/-- No header stands if there is none. -/
theorem standing?_eq_none_iff {headers : List FunctionDecl} :
    standing? headers = none ↔ headers = [] := by
  cases headers using List.reverseRecOn with
  | nil => simp [standing?]
  | append_singleton headers h => simp [standing?_concat]

/-- The header that stands for a name has this name. -/
theorem name_of_standingFor? {headers : List FunctionDecl} {name : String} {h : FunctionDecl}
    (hstanding : standingFor? headers name = some h) : h.name = name :=
  eq_of_beq (List.mem_filter.mp (mem_of_standing? hstanding)).2

/-- Among the functions of some headers, the one of a name is the header that stands for it. -/
theorem find?_standingFunctions (headers : List FunctionDecl) (name : String) :
    (standingFunctions headers).find? (·.name == name) =
      standingFor? headers name := by
  have hnames : ∀ names : List String,
      (names.filterMap (standingFor? headers)).find? (·.name == name) =
        if name ∈ names then standingFor? headers name else none := by
    intro names
    induction names with
    | nil => rfl
    | cons first names ih =>
      cases hfirst : standingFor? headers first with
      | none =>
        rw [List.filterMap_cons_none hfirst, ih]
        by_cases hname : name = first
        · simp [hname, hfirst]
        · simp [hname]
      | some h =>
        have hh : h.name = first := name_of_standingFor? hfirst
        rw [List.filterMap_cons_some hfirst, List.find?_cons, hh, ih]
        by_cases hname : first = name
        · simp [hname, ← hfirst]
        · have hne : ¬name = first := fun heq => hname heq.symm
          simp [beq_eq_false_iff_ne.mpr hname, hne]
  rw [standingFunctions, hnames]
  split
  · rfl
  case isFalse habsent =>
    have hempty : headers.filter (·.name == name) = [] := by
      rw [List.filter_eq_nil_iff]
      intro h hh hname
      refine habsent (List.mem_eraseDups.mpr (List.mem_map.mpr ⟨h, hh, eq_of_beq hname⟩))
    rw [standingFor?, hempty]
    rfl

/-- The names of the functions are the names of the headers, in the order of the first ones. -/
theorem map_name_standingFunctions (headers : List FunctionDecl) :
    (standingFunctions headers).map (·.name) = (headers.map (·.name)).eraseDups := by
  have hnames : ∀ names : List String, (∀ name ∈ names, name ∈ headers.map (·.name)) →
      (names.filterMap (standingFor? headers)).map (·.name) =
        names := by
    intro names hmem
    induction names with
    | nil => rfl
    | cons first names ih =>
      obtain ⟨hfirst, hmem⟩ := List.forall_mem_cons.mp hmem
      obtain ⟨h, hh, hname⟩ := List.mem_map.mp hfirst
      cases hstanding : standingFor? headers first with
      | none =>
        have hmember : h ∈ headers.filter (·.name == first) :=
          List.mem_filter.mpr ⟨hh, by simp [hname]⟩
        rw [standing?_eq_none_iff.mp hstanding] at hmember
        exact absurd hmember List.not_mem_nil
      | some e =>
        rw [List.filterMap_cons_some hstanding, List.map_cons, ih hmem,
          name_of_standingFor? hstanding]
  exact hnames _ fun name hname => List.mem_eraseDups.mp hname

/-- One more header of a function changes what stands for this function only. -/
theorem standingFor?_concat (headers : List FunctionDecl) (h : FunctionDecl) (name : String) :
    standingFor? (headers ++ [h]) name =
      if h.name = name then some (outweighed h (standingFor? headers name))
      else standingFor? headers name := by
  rw [standingFor?, List.filter_append]
  by_cases hname : h.name = name
  · simp [hname, standing?_concat, standingFor?]
  · simp [hname, standingFor?]

/-- A first header of a function is put behind the others. -/
theorem standingFunctions_concat_of_new {headers : List FunctionDecl} {h : FunctionDecl}
    (hnew : standingFor? headers h.name = none) :
    standingFunctions (headers ++ [h]) = standingFunctions headers ++ [h] := by
  have habsent : h.name ∉ headers.map (·.name) := by
    intro hmem
    obtain ⟨e, he, hname⟩ := List.mem_map.mp hmem
    have hmember : e ∈ headers.filter (·.name == h.name) :=
      List.mem_filter.mpr ⟨he, by simp [hname]⟩
    rw [standing?_eq_none_iff.mp hnew] at hmember
    exact absurd hmember List.not_mem_nil
  have hlast : [h.name].removeAll (headers.map (·.name)) = [h.name] := by
    simpa [List.removeAll] using habsent
  rw [standingFunctions, List.map_append, List.map_singleton, List.eraseDups_append, hlast,
    List.filterMap_append]
  have hone : [h.name].eraseDups.filterMap (standingFor? (headers ++ [h])) = [h] := by
    simp [List.eraseDups_cons, standingFor?_concat, hnew, outweighed]
  rw [hone]
  congr 1
  refine List.filterMap_congr fun name hname => ?_
  have hne : h.name ≠ name := fun heq => habsent (heq ▸ List.mem_eraseDups.mp hname)
  rw [standingFor?_concat, if_neg hne]

/-- A later header of a function takes the place of the one that stands, or changes nothing. -/
theorem standingFunctions_concat_of_some {headers : List FunctionDecl} {h e : FunctionDecl}
    (hstanding : standingFor? headers h.name = some e) :
    standingFunctions (headers ++ [h]) = (standingFunctions headers).map fun old =>
      if old.name = h.name then outweighed h (some e) else old := by
  have hmem : h.name ∈ headers.map (·.name) :=
    List.mem_map.mpr ⟨e, (List.mem_filter.mp (mem_of_standing? hstanding)).1,
      name_of_standingFor? hstanding⟩
  have hlast : [h.name].removeAll (headers.map (·.name)) = [] := by
    simpa [List.removeAll] using hmem
  rw [standingFunctions, standingFunctions, List.map_append, List.map_singleton,
    List.eraseDups_append, hlast, List.eraseDups_nil, List.append_nil, List.map_filterMap]
  refine List.filterMap_congr fun name _ => ?_
  rw [standingFor?_concat]
  split
  case isTrue hname =>
    subst hname
    simp [hstanding, name_of_standingFor? hstanding]
  case isFalse hname =>
    cases hother : standingFor? headers name with
    | none => rfl
    | some old =>
      have hold : old.name ≠ h.name := by
        rw [name_of_standingFor? hother]
        exact fun heq => hname heq.symm
      simp [hold]

namespace FunctionTable

/-- Putting a function in the place of another one. -/
theorem functions_replace (table : FunctionTable) (decl : FunctionDecl) :
    (table.replace decl).functions =
      table.functions.map fun old => if old.name = decl.name then decl else old :=
  rfl

/-- A second definition takes the place of the first if it weighs more. -/
theorem functions_addDefinition (table : FunctionTable) {existing decl : FunctionDecl}
    (hexisting : existing.isPrototype = false) (hdecl : decl.isPrototype = false) :
    (table.addDefinition existing decl).functions =
      if existing.weight < decl.weight then (table.replace decl).functions
      else table.functions := by
  have hreport : ∀ t : FunctionTable, t.functions = table.functions →
      (if existing.conditional && !decl.conditional then t.replace decl else t).functions =
        if existing.weight < decl.weight then (table.replace decl).functions
        else table.functions := by
    intro t ht
    cases hfirst : existing.conditional <;> cases hsecond : decl.conditional <;>
      simp [FunctionDecl.weight, FunctionDecl.isFirm, FunctionDecl.isDefinition, hexisting, hdecl,
        hfirst, hsecond, ht, functions_replace]
  unfold addDefinition
  refine hreport _ ?_
  split
  · rfl
  split <;> rfl

/-- A header takes the place of another one of its function if it weighs more. -/
theorem functions_add {catalog : Catalog} {config : Config} {table : FunctionTable}
    {decl existing : FunctionDecl} (hfound : table.find? decl.name = some existing) :
    (table.add catalog config decl).functions =
      if existing.weight < decl.weight then (table.replace decl).functions
      else table.functions := by
  have hlight : ∀ h : FunctionDecl, h.isPrototype = true → h.weight = 0 := fun h hh =>
    FunctionDecl.weight_of_not_isDefinition (by simp [FunctionDecl.isDefinition, hh])
  simp only [add, hfound]
  cases hfirst : existing.isPrototype with
  | true =>
    cases hsecond : decl.isPrototype with
    | true => simp [hlight existing hfirst, hlight decl hsecond]
    | false =>
      have hmore : 0 < decl.weight := by
        unfold FunctionDecl.weight
        split <;> simp [FunctionDecl.isDefinition, hsecond]
      simp [hlight existing hfirst, hmore]
  | false =>
    cases hsecond : decl.isPrototype with
    | true => simp [hlight decl hsecond]
    | false => simpa using functions_addDefinition table hfirst hsecond

/-- A header of a new function is put behind the others. -/
theorem functions_add_of_new {catalog : Catalog} {config : Config} {table : FunctionTable}
    {decl : FunctionDecl} (hnew : table.find? decl.name = none) :
    (table.add catalog config decl).functions = table.functions ++ [decl] := by
  simp only [add, hnew, addFirst]
  split <;> rfl

/-- The table holds for every function the header that stands for it, in the order of the first
headers. -/
theorem functions_foldl_add (catalog : Catalog) (config : Config) (headers : List FunctionDecl) :
    (headers.foldl (add catalog config) {}).functions = standingFunctions headers := by
  induction headers using List.reverseRecOn with
  | nil => rfl
  | append_singleton headers h ih =>
    have hfind : (headers.foldl (add catalog config) {}).find? h.name =
        standingFor? headers h.name := by
      rw [find?, ih, find?_standingFunctions]
    rw [List.foldl_append, List.foldl_cons, List.foldl_nil]
    cases hstanding : standingFor? headers h.name with
    | none =>
      rw [hstanding] at hfind
      rw [functions_add_of_new hfind, ih, standingFunctions_concat_of_new hstanding]
    | some e =>
      rw [hstanding] at hfind
      rw [functions_add hfind, standingFunctions_concat_of_some hstanding, functions_replace, ih]
      split
      case isTrue hlt => simp only [outweighed, hlt, if_true]
      case isFalse hle =>
        -- What stands has the name already, so it is put in its own place.
        simp only [outweighed, hle, if_false]
        have hself : ∀ old ∈ standingFunctions headers,
            (if old.name = h.name then e else old) = old := by
          intro old hold
          split
          case isTrue hname =>
            obtain ⟨name, _, hold⟩ := List.mem_filterMap.mp hold
            rw [← name_of_standingFor? hold, hname, hstanding] at hold
            exact Option.some.inj hold
          case isFalse => rfl
        rw [List.map_congr_left hself, List.map_id']

end FunctionTable

end BrickLint
