import BrickLint.Text.Utf8

/-!
# Parse trees

A parse tree as a parser of C delivers it. Offsets and columns count bytes of the UTF-8 text. A
parser that goes on after an error leaves error nodes and missing nodes in the tree. Nothing is
assumed about the parser: the numbers of a node need not fit the text.
-/

namespace BrickLint.Grammar

open Text

/-- What is known of a node apart from its children. -/
structure NodeInfo where
  /-- The kind of the node. -/
  type : String
  /-- The offset of its first byte. -/
  startByte : Int
  /-- The offset just after its last byte. -/
  endByte : Int
  /-- The row of its first byte. -/
  startRow : Int
  /-- The column of its first byte. -/
  startColumn : Int
  /-- The row of its end. -/
  endRow : Int
  /-- The parser put the node in for something that is not there. -/
  missing : Bool := false
  /-- The node holds an error. -/
  hasError : Bool := false
  /-- The node is part of the structure and not only a piece of text. -/
  named : Bool := true
  /-- The role of the node in its parent. -/
  field : Option String := none
  deriving DecidableEq, Repr

/-- A parse tree. -/
inductive Node where
  /-- A node with its children. -/
  | mk (info : NodeInfo) (children : List Node)

namespace Node

/-- What is known of the node. -/
def info : Node → NodeInfo
  | mk info _ => info

/-- The children. -/
def children : Node → List Node
  | mk _ children => children

/-- The kind of the node. -/
def type (node : Node) : String :=
  node.info.type

/-- The children that are part of the structure. -/
def namedChildren (node : Node) : List Node :=
  node.children.filter (·.info.named)

/-- The first child with a role. -/
def childByField? (node : Node) (field : String) : Option Node :=
  node.children.find? fun child => child.info.field == some field

/-- The number of nodes of a tree. -/
def size : Node → Nat
  | mk _ children => 1 + sizes children
where
  /-- The number of nodes of several trees. -/
  sizes : List Node → Nat
    | [] => 0
    | node :: rest => node.size + sizes rest

/-- Sizes of lists of trees add up. -/
theorem sizes_append (a b : List Node) : size.sizes (a ++ b) = size.sizes a + size.sizes b := by
  induction a with
  | nil => simp [size.sizes]
  | cons node rest ih => simp [size.sizes, ih]; omega

/-- A tree has one node more than its children. -/
theorem size_eq (node : Node) : node.size = 1 + size.sizes node.children := by
  cases node
  rw [size, children]

/-- A tree is not larger than a list that it belongs to. -/
theorem size_le_sizes {node : Node} {nodes : List Node} (h : node ∈ nodes) :
    node.size ≤ size.sizes nodes := by
  induction nodes with
  | nil => simp at h
  | cons first rest ih =>
    rw [size.sizes]
    rcases List.mem_cons.mp h with rfl | h
    · omega
    · have := ih h
      omega

/-- A child with a role is smaller than its parent. -/
theorem size_childByField? {node child : Node} {field : String}
    (h : node.childByField? field = some child) : child.size < node.size := by
  have hmem := List.mem_of_find?_eq_some h
  have := size_le_sizes hmem
  rw [size_eq node]
  omega

/-- The place that an offset stands for in a text of `length` bytes. A negative offset is counted
from the end of the text, and one before the start stands for the start. -/
def placeOf (length : Nat) (offset : Int) : Nat :=
  if offset < 0 then (length + offset).toNat else offset.toNat

/-- The bytes of a node. An offset past the end stands for the end. -/
def bytes (node : Node) (source : List UInt8) : List UInt8 :=
  (source.take (placeOf source.length node.info.endByte)).drop
    (placeOf source.length node.info.startByte)

/-- The text of a node (`_node_text`). -/
def text (node : Node) (source : List UInt8) : List Char :=
  decodeUtf8 (node.bytes source)

end Node

end BrickLint.Grammar
