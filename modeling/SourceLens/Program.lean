import SourceLens.Library
import SourceLens.Tree.Lookup

/-!
# Programs

A program is a buffer together with the library that it was given.  Names are looked up in the buffer
first: the innermost variable in scope, then the free items, the buffer's before the library's.
-/

namespace SourceLens

/-- A buffer and its library. -/
structure Program where
  buffer : Document
  table : SymbolTable
  library : Library
  /-- The table was filled by pushing alone. -/
  filed : table.IsFiled

namespace Program

/-- The program of a buffer. -/
def ofSource (library : Library) (source : String) (tree : Tree) : Program :=
  let buffer : Document := ⟨.source, source, tree⟩
  ⟨buffer, .number library.table.size buffer.declarations, library,
    SymbolTable.isFiled_number _ buffer.declarations⟩

/-- The tree of the buffer. -/
def tree (program : Program) : Tree :=
  program.buffer.tree

/-- The text of a node of the buffer. -/
def text (program : Program) (node : NodeId) : String :=
  program.buffer.text node

/-- The declaration with an identity, in the buffer or in the library. -/
def declaration? (program : Program) (id : SymbolId) : Option Declaration :=
  if id < program.table.base then program.library.table.get? id else program.table.get? id

/-- The symbol with an identity. -/
def symbol? (program : Program) (id : SymbolId) : Option Symbol :=
  (program.declaration? id).map Declaration.symbol

/-- Whether a declaration is one of the buffer's. -/
def isOwn (program : Program) (declaration : Declaration) : Bool :=
  program.table.base ≤ declaration.id

/-- The free items with a name, the buffer's first. -/
def free (program : Program) (name : String) : List Declaration :=
  program.table.free name ++ program.library.table.free name

/-- The members of a type or a module, the buffer's first. -/
def members (program : Program) (container : String) : List Declaration :=
  program.table.members container ++ program.library.table.members container

/-- The variables, parameters and inner functions that are visible at an offset. -/
def visibleAt (program : Program) (offset : Nat) : List Declaration :=
  program.table.lexical.filter fun declaration => declaration.isVisibleAt offset

/-- The innermost of some declarations: the one whose scope starts last, the later one of two that
start together. -/
def innermost? : List Declaration → Option Declaration
  | [] => none
  | declaration :: declarations =>
      match innermost? declarations with
      | some inner => if declaration.scopeStart ≤ inner.scopeStart then some inner else some declaration
      | none => some declaration

/-- The declaration that a name denotes at an offset. -/
def resolveName (program : Program) (name : String) (offset : Nat) : Option Declaration :=
  (innermost? ((program.visibleAt offset).filter fun declaration => declaration.name == name)).or
    (program.free name).head?

end Program

end SourceLens
