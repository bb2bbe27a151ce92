import BrickLint.Directive.Conditional

/-!
# Scopes

Scopes are kept in an arena, in the order of their creation, and the open ones are listed by their
index. A scope that has been closed stays in the arena, so its variables can still be reported. The
global scope has index zero and is never closed. A *header scope* is opened at the parenthesis of a
function or loop header and is bound to the next opening brace instead of a scope of its own.
-/

namespace BrickLint

/-- The kinds of scope (`ScopeKind`). -/
inductive ScopeKind where
  /-- The whole program. -/
  | global
  /-- A plain block. -/
  | block
  /-- The parameters and the body of a function. -/
  | function
  /-- The header and the body of a counting loop. -/
  | forLoop
  /-- The members of a structure or union. -/
  | aggregate
  /-- The members of an enumeration. -/
  | enum
  /-- A block of assembly instructions. -/
  | asm
  deriving DecidableEq, Repr

/-- The name of a kind. -/
def ScopeKind.name : ScopeKind → String
  | .global => "global"
  | .block => "block"
  | .function => "function"
  | .forLoop => "for"
  | .aggregate => "aggregate"
  | .enum => "enum"
  | .asm => "asm"

/-- The kind of a name. -/
def ScopeKind.ofName? (name : String) : Option ScopeKind :=
  [ScopeKind.global, .block, .function, .forLoop, .aggregate, .enum, .asm].find?
    fun kind => kind.name == name

/-- A declared variable or parameter (`Symbol`). -/
structure Variable where
  /-- Its name. -/
  name : String
  /-- The line of its declaration, counted from zero. -/
  line : Int
  /-- The column of its declaration, counted from zero. -/
  column : Int
  /-- The conditional branches around its declaration. -/
  path : List Branch := []
  /-- Whether it is a parameter. -/
  isParameter : Bool := false
  /-- Whether it has been used. -/
  used : Bool := false
  deriving DecidableEq, Repr

/-- A scope with its variables (`Scope`). -/
structure Scope where
  /-- Its place in the arena. -/
  index : Nat
  /-- Its kind. -/
  kind : ScopeKind
  /-- The scope around it; the global scope has none. -/
  parent : Option Nat
  /-- The line on which it was opened. -/
  openedLine : Int
  /-- Its variables, in the order of declaration. -/
  declared : List Variable := []
  /-- A header scope still waits for the brace of its body. -/
  awaitingBrace : Bool := false
  /-- The parentheses of a header scope are still open. -/
  headerOpen : Bool := false
  /-- How many parentheses were open before the header. -/
  headerDepth : Int := 0
  deriving DecidableEq, Repr

/-- The variable of a name. -/
def Scope.find? (scope : Scope) (name : String) : Option Variable :=
  scope.declared.find? fun v => v.name == name

/-- Puts a variable in place of the one of the same name, or at the end. -/
def putVariable (v : Variable) : List Variable → List Variable
  | [] => [v]
  | w :: rest => if w.name = v.name then v :: rest else w :: putVariable v rest

/-- Declares a variable. -/
def Scope.declare (scope : Scope) (v : Variable) : Scope :=
  { scope with declared := putVariable v scope.declared }

/-- Marks the variable of a name as used. -/
def Scope.markUsed (scope : Scope) (name : String) : Scope :=
  { scope with
    declared := scope.declared.map fun v => if v.name = name then { v with used := true } else v }

/-- The global scope of an empty program. -/
def Scope.root : Scope :=
  { index := 0, kind := .global, parent := none, openedLine := 0 }

/-- The arena of scopes and the stack of open ones (`ScopeStack`). -/
structure ScopeStack where
  /-- All scopes, in the order of creation. -/
  arena : List Scope := [Scope.root]
  /-- The indices of the open scopes, innermost first. -/
  stack : List Nat := [0]
  deriving DecidableEq, Repr

namespace ScopeStack

/-- The index of the innermost scope. -/
def currentIndex (s : ScopeStack) : Nat :=
  s.stack.head?.getD 0

/-- The scope with an index. -/
def scopeAt (s : ScopeStack) (index : Nat) : Scope :=
  (s.arena[index]?).getD Scope.root

/-- The innermost scope. -/
def current (s : ScopeStack) : Scope :=
  s.scopeAt s.currentIndex

/-- How many scopes are open. -/
def depth (s : ScopeStack) : Nat :=
  s.stack.length

/-- Changes the innermost scope. -/
def modifyCurrent (s : ScopeStack) (f : Scope → Scope) : ScopeStack :=
  { s with arena := s.arena.modify s.currentIndex f }

/-- Opens a scope (`ScopeStack.push`). A header scope is given the number of parentheses that are
open before it. -/
def push (s : ScopeStack) (kind : ScopeKind) (line : Int) (headerDepth : Option Int := none) :
    ScopeStack where
  arena := s.arena ++ [{
    index := s.arena.length
    kind := kind
    parent := some s.currentIndex
    openedLine := line
    awaitingBrace := headerDepth.isSome
    headerOpen := headerDepth.isSome
    headerDepth := headerDepth.getD 0 }]
  stack := s.arena.length :: s.stack

/-- The stack without its innermost entry; the last entry stays. -/
def popEntry : List Nat → List Nat
  | _ :: outer :: rest => outer :: rest
  | stack => stack

/-- Closes the innermost scope (`ScopeStack.pop`). The global scope stays open. -/
def pop (s : ScopeStack) : ScopeStack :=
  { s with stack := popEntry s.stack }

/-- The scope that `pop` closes. -/
def popped? (s : ScopeStack) : Option Scope :=
  match s.stack with
  | index :: _ :: _ => some (s.scopeAt index)
  | _ => none

/-- Drops the innermost entries with a property; the last entry stays. -/
def dropEntries (p : Nat → Bool) : List Nat → List Nat
  | index :: outer :: rest =>
    if p index then dropEntries p (outer :: rest) else index :: outer :: rest
  | stack => stack

/-- Closes the innermost scopes as long as they have a property. -/
def popWhile (s : ScopeStack) (p : Scope → Bool) : ScopeStack :=
  { s with stack := dropEntries (fun index => p (s.scopeAt index)) s.stack }

/-- Whether a scope of a kind is open (`ScopeStack.inside`). -/
def inside (s : ScopeStack) (kind : ScopeKind) : Bool :=
  s.stack.any fun index => (s.scopeAt index).kind == kind

/-- The innermost open scope that holds a name, with its variable (`ScopeStack.lookup`). -/
def find? (s : ScopeStack) (name : String) : Option (Nat × Variable) :=
  s.stack.findSome? fun index => ((s.scopeAt index).find? name).map (index, ·)

/-- Marks the variable of a name in a scope as used. -/
def markUsed (s : ScopeStack) (index : Nat) (name : String) : ScopeStack :=
  { s with arena := s.arena.modify index (·.markUsed name) }

/-- Resolves a name and marks what it finds as used. -/
def use (s : ScopeStack) (name : String) : ScopeStack :=
  match s.find? name with
  | some (index, _) => s.markUsed index name
  | none => s

/-- Declares a variable in the innermost scope. -/
def declare (s : ScopeStack) (v : Variable) : ScopeStack :=
  s.modifyCurrent (·.declare v)

end ScopeStack

end BrickLint
