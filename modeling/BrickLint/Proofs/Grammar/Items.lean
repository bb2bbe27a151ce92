import BrickLint.Grammar.Item
import Mathlib.Data.List.Basic

/-!
# Functions of a program

The functions of a program are found by walking over its items and, inside groups of directives,
over the items of the group. So a function is found exactly if its definition can be reached from
the root of the parse tree over named children, with nothing but groups of directives in between.
-/

namespace BrickLint.Grammar

/-- A node is a group of directives. -/
def Node.IsGroup (node : Node) : Prop :=
  "preproc_".toList <+: node.type.toList

instance (node : Node) : Decidable node.IsGroup :=
  inferInstanceAs (Decidable ("preproc_".toList <+: node.type.toList))

/-- A node can be reached from another one over named children, all nodes in between being groups of
directives. -/
inductive IsItemOf (item : Node) : Node → Prop
  /-- A named child. -/
  | child {parent : Node} (hitem : item ∈ parent.namedChildren) : IsItemOf item parent
  /-- An item of a group that is a named child. -/
  | inGroup {parent group : Node} (hgroup : group ∈ parent.namedChildren) (htype : group.IsGroup)
      (hitem : IsItemOf item group) : IsItemOf item parent

/-- A node counts as a function exactly if it is a function definition. -/
theorem ofNode_eq_function_iff {node : Node} :
    ItemKind.ofNode node = .function ↔ node.type = "function_definition" := by
  unfold ItemKind.ofNode
  split
  case isTrue htype => exact iff_of_true rfl htype
  case isFalse htype =>
    refine iff_of_false ?_ htype
    split
    · nofun
    split
    · nofun
    split <;> nofun

/-- A node counts as a directive exactly if it is a group of directives. -/
theorem ofNode_eq_preprocessor_iff {node : Node} :
    ItemKind.ofNode node = .preprocessor ↔ node.IsGroup := by
  have hother : ∀ type ∈ "function_definition" :: declarationTypeNames,
      ¬"preproc_".toList <+: type.toList := by decide
  unfold ItemKind.ofNode Node.IsGroup
  split
  case isTrue hfunction =>
    exact iff_of_false nofun (hfunction ▸ hother _ List.mem_cons_self)
  split
  case isTrue hdeclaration =>
    exact iff_of_false nofun
      (hother node.type (List.mem_cons_of_mem _ (by simpa using hdeclaration)))
  split
  case isTrue hgroup => exact iff_of_true rfl (List.isPrefixOf_iff_prefix.mp hgroup)
  case isFalse hgroup =>
    rw [List.isPrefixOf_iff_prefix] at hgroup
    split
    · exact iff_of_false nofun hgroup
    · exact iff_of_false nofun hgroup

/-- The first function declarator on the chain of declarators from a node. -/
inductive LeadsTo (declarator : Node) : Node → Prop
  /-- The chain ends at the first function declarator. -/
  | here (htype : declarator.type = "function_declarator") : LeadsTo declarator declarator
  /-- The chain goes on at another node. -/
  | inner {node next : Node} (htype : node.type ≠ "function_declarator")
      (hnext : node.childByField? "declarator" = some next) (hrest : LeadsTo declarator next) :
      LeadsTo declarator node

/-- A node defines the function of a name: its chain of declarators leads to a function declarator,
and the declarator of that one is an identifier with the name as its text. -/
def DefinesFunction (source : List UInt8) (name : String) (node : Node) : Prop :=
  node.type = "function_definition" ∧ ∃ first declarator identifier,
    node.childByField? "declarator" = some first ∧ LeadsTo declarator first ∧
      declarator.childByField? "declarator" = some identifier ∧
      identifier.type = "identifier" ∧ String.ofList (identifier.text source) = name

/-- The chain of declarators is followed to its first function declarator. -/
theorem functionDeclarator?_eq_some_iff {node declarator : Node} :
    functionDeclarator? node = some declarator ↔ LeadsTo declarator node := by
  induction hsize : node.size using Nat.strongRecOn generalizing node with
  | ind size ih =>
    subst hsize
    rw [functionDeclarator?]
    constructor
    · intro h
      split at h
      case isTrue htype =>
        obtain rfl := Option.some.inj h
        exact .here htype
      case isFalse htype =>
        split at h
        case h_1 next hnext =>
          exact .inner htype hnext ((ih _ (Node.size_childByField? hnext) rfl).mp h)
        case h_2 => simp at h
    · intro h
      cases h with
      | here htype => rw [if_pos htype]
      | inner htype hnext hrest =>
        rw [if_neg htype]
        split
        case h_1 next hfound =>
          obtain rfl := Option.some.inj (hfound.symm.trans hnext)
          exact (ih _ (Node.size_childByField? hnext) rfl).mpr hrest
        case h_2 hnone => rw [hnext] at hnone; cases hnone

/-- The name of a defined function is that of its identifier. -/
theorem functionName?_eq_some_iff {source : List UInt8} {name : String} {node : Node}
    (htype : node.type = "function_definition") :
    functionName? source node = some name ↔ DefinesFunction source name node := by
  simp only [functionName?, DefinesFunction, htype, true_and, Option.bind_eq_bind,
    Option.bind_eq_some_iff, functionDeclarator?_eq_some_iff, Option.ite_none_right_eq_some,
    Option.some.injEq]
  constructor
  · rintro ⟨first, hfirst, declarator, hdeclarator, identifier, hidentifier, hname⟩
    exact ⟨first, declarator, identifier, hfirst, hdeclarator, hidentifier, hname⟩
  · rintro ⟨first, declarator, identifier, hfirst, hdeclarator, hidentifier, hname⟩
    exact ⟨first, hfirst, declarator, hdeclarator, identifier, hidentifier, hname⟩

section

variable {source : List UInt8} {name : String}

/-- The functions of several items are those of the ones that belong to the structure. -/
theorem mem_functions_inventories {nodes : List Node} :
    name ∈ (inventory.inventories source nodes).functions ↔
      ∃ node ∈ nodes, node.info.named = true ∧ name ∈ (inventory source node).functions := by
  induction nodes with
  | nil => simp [inventory.inventories]
  | cons node rest ih =>
    simp only [inventory.inventories, List.exists_mem_cons_iff, ← ih]
    split
    case isTrue hnamed => simp [Inventory.append, hnamed]
    case isFalse hnamed => simp [hnamed]

/-- The functions of an item: its own name, or the functions of the items in a group. -/
theorem mem_functions_inventory {node : Node} (hname : name ≠ "") :
    name ∈ (inventory source node).functions ↔ DefinesFunction source name node ∨
      node.IsGroup ∧ name ∈ (inventory.inventories source node.children).functions := by
  obtain ⟨info, children⟩ := node
  rw [inventory]
  cases hkind : ItemKind.ofNode (.mk info children) with
  | function =>
    have htype := ofNode_eq_function_iff.mp hkind
    have hgroup : ¬(Node.mk info children).IsGroup := by
      rw [← ofNode_eq_preprocessor_iff, hkind]
      simp
    rw [← functionName?_eq_some_iff htype]
    simp [hgroup, Option.filter_eq_some_iff, hname]
  | preprocessor =>
    have hgroup := ofNode_eq_preprocessor_iff.mp hkind
    have htype : ¬DefinesFunction source name (.mk info children) := by
      rintro ⟨htype, _⟩
      rw [← ofNode_eq_function_iff, hkind] at htype
      cases htype
    simp [hgroup, htype, Node.children]
  | declaration | error | other =>
    have hgroup : ¬(Node.mk info children).IsGroup := by
      rw [← ofNode_eq_preprocessor_iff, hkind]
      simp
    have htype : ¬DefinesFunction source name (.mk info children) := by
      rintro ⟨htype, _⟩
      rw [← ofNode_eq_function_iff, hkind] at htype
      cases htype
    simp [hgroup, htype]

/-- The functions of a program are those that its items define. The empty name does not count. -/
theorem mem_functions_programInventory {root : Node} (hname : name ≠ "") :
    name ∈ (programInventory source root).functions ↔
      ∃ item, IsItemOf item root ∧ DefinesFunction source name item := by
  induction hsize : root.size using Nat.strongRecOn generalizing root with
  | ind size ih =>
    subst hsize
    have hlater : ∀ {node}, node ∈ root.children →
        (name ∈ (inventory.inventories source node.children).functions ↔
          ∃ item, IsItemOf item node ∧ DefinesFunction source name item) := by
      intro node hnode
      have hle := Node.size_le_sizes hnode
      exact ih node.size (by rw [Node.size_eq root]; omega) rfl
    rw [programInventory, mem_functions_inventories]
    constructor
    · rintro ⟨node, hnode, hnamed, hfound⟩
      have hchild : node ∈ root.namedChildren := List.mem_filter.mpr ⟨hnode, hnamed⟩
      rcases (mem_functions_inventory hname).mp hfound with hdefines | ⟨hgroup, hinside⟩
      · exact ⟨node, .child hchild, hdefines⟩
      · obtain ⟨item, hitem, hdefines⟩ := (hlater hnode).mp hinside
        exact ⟨item, .inGroup hchild hgroup hitem, hdefines⟩
    · rintro ⟨item, hitem, hdefines⟩
      cases hitem with
      | child hchild =>
        obtain ⟨hnode, hnamed⟩ := List.mem_filter.mp hchild
        exact ⟨item, hnode, hnamed, (mem_functions_inventory hname).mpr (.inl hdefines)⟩
      | inGroup hchild hgroup hitem =>
        obtain ⟨hnode, hnamed⟩ := List.mem_filter.mp hchild
        have hinside := (hlater hnode).mpr ⟨item, hitem, hdefines⟩
        exact ⟨_, hnode, hnamed, (mem_functions_inventory hname).mpr (.inr ⟨hgroup, hinside⟩)⟩

end

end BrickLint.Grammar
