import BrickLint.Grammar.Tree

/-!
# Top-level items

The children of the root of a parse tree are sorted into a few kinds. Groups of conditional
directives hold items of their own.
-/

namespace BrickLint.Grammar

/-- The kinds of top-level item. -/
inductive ItemKind where
  /-- The definition of a function. -/
  | function
  /-- Any other declaration. -/
  | declaration
  /-- A directive, with the items that it encloses. -/
  | preprocessor
  /-- Text that the parser could not place. -/
  | error
  /-- Anything else. -/
  | other
  deriving DecidableEq, Repr

/-- The name of a kind. -/
def ItemKind.name : ItemKind → String
  | .function => "function"
  | .declaration => "declaration"
  | .preprocessor => "preprocessor"
  | .error => "error"
  | .other => "other"

/-- The types of nodes that declare something. -/
def declarationTypeNames : List String :=
  ["declaration", "type_definition", "struct_specifier", "enum_specifier", "union_specifier"]

/-- The kind of a node (`classify`). -/
def ItemKind.ofNode (node : Node) : ItemKind :=
  if node.type = "function_definition" then .function
  else if declarationTypeNames.contains node.type then .declaration
  else if "preproc_".toList.isPrefixOf node.type.toList then .preprocessor
  else if node.type = "ERROR" then .error
  else .other

/-- The first function declarator on the chain of declarators from a node. -/
def functionDeclarator? (node : Node) : Option Node :=
  if node.type = "function_declarator" then some node
  else
    match _h : node.childByField? "declarator" with
    | some inner => functionDeclarator? inner
    | none => none
termination_by node.size
decreasing_by exact Node.size_childByField? _h

/-- The name of a defined function, unless its declarator is not a plain identifier
(`_function_name`). -/
def functionName? (source : List UInt8) (node : Node) : Option String := do
  let declarator ← functionDeclarator? (← node.childByField? "declarator")
  let name ← declarator.childByField? "declarator"
  if name.type = "identifier" then some (String.ofList (name.text source)) else none

/-- The name of an item; only functions have one. -/
def itemName? (source : List UInt8) (node : Node) : Option String :=
  if ItemKind.ofNode node = .function then functionName? source node else none

/-- What the items of a program amount to. -/
structure Inventory where
  /-- The names of the defined functions, in order. -/
  functions : List String := []
  /-- The number of other declarations. -/
  declarations : Nat := 0
  /-- The number of items that the parser could not place. -/
  errorItems : Nat := 0
  deriving DecidableEq, Repr

/-- The inventory of two parts of a program, one after the other. -/
def Inventory.append (a b : Inventory) : Inventory :=
  ⟨a.functions ++ b.functions, a.declarations + b.declarations, a.errorItems + b.errorItems⟩

/-- The inventory of one item (`_ItemVisitor`). The items inside a group of directives count like
items outside. -/
def inventory (source : List UInt8) : Node → Inventory
  | .mk info children =>
    let node := Node.mk info children
    match ItemKind.ofNode node with
    | .function => { functions := ((functionName? source node).filter (· != "")).toList }
    | .declaration => { declarations := 1 }
    | .preprocessor => inventories source children
    | .error => { errorItems := 1 }
    | .other => {}
where
  /-- The inventory of several items, of which those outside the structure do not count. -/
  inventories (source : List UInt8) : List Node → Inventory
    | [] => {}
    | node :: rest =>
      let others := inventories source rest
      if node.info.named then (inventory source node).append others else others

/-- The inventory of a program. -/
def programInventory (source : List UInt8) (root : Node) : Inventory :=
  inventory.inventories source root.children

end BrickLint.Grammar
