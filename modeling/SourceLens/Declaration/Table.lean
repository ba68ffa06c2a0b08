import SourceLens.Declaration

/-!
# Symbol tables

A table numbers declarations as they are pushed into it and files each of them where it is looked up:
free items under their names, members under their containers, and what has a scope of its own in one
list.  Declarations of the buffer are also filed under the token that names them and under the node
that makes them.

The maps of a table are lists of entries with one entry for each key.  Their order is of no
importance: what goes through a whole map is told the order in which to do it.
-/

namespace SourceLens

/-- Identities by name. -/
abbrev Index := List (String × List SymbolId)

namespace Index

/-- The index with one more identity under a name, after those that are there. -/
def file (name : String) (id : SymbolId) : Index → Index
  | [] => [(name, [id])]
  | (other, ids) :: entries =>
      if other = name then (other, ids ++ [id]) :: entries
      else (other, ids) :: file name id entries

/-- The identities under a name, in the order in which they were filed. -/
def under (index : Index) (name : String) : List SymbolId :=
  (index.lookup name).getD []

/-- The names of an index. -/
def names (index : Index) : List String :=
  index.map Prod.fst

/-- All that is filed in an index. -/
def ids (index : Index) : List SymbolId :=
  index.flatMap Prod.snd

end Index

/-- The symbols of nodes. -/
abbrev NodeMap := List (NodeId × SymbolId)

namespace NodeMap

/-- The map with a symbol for a node, whether it had one before or not. -/
def insert (node : NodeId) (id : SymbolId) : NodeMap → NodeMap
  | [] => [(node, id)]
  | (other, known) :: entries =>
      if other = node then (node, id) :: entries else (other, known) :: insert node id entries

/-- The map with a symbol for a node that had none. -/
def insertNew (node : NodeId) (id : SymbolId) (map : NodeMap) : NodeMap :=
  if (map.lookup node).isSome then map else insert node id map

end NodeMap

/-- An order in which names can be gone through.  Nothing is known about it. -/
structure NameOrder where
  /-- The names in that order. -/
  arrange : List String → List String
  /-- No name is left out, and none is added. -/
  perm : ∀ names, (arrange names).Perm names

/-- The order in which the names came up. -/
def NameOrder.asFiled : NameOrder :=
  ⟨id, fun _ => .refl _⟩

/-- The declarations of some documents. -/
structure SymbolTable where
  /-- The identity of the first declaration. -/
  base : SymbolId
  /-- The declarations in order. -/
  declarations : Array Declaration := #[]
  /-- The free items by name. -/
  freeIds : Index := []
  /-- The members by container. -/
  memberIds : Index := []
  /-- What has a scope of its own. -/
  lexicalIds : List SymbolId := []
  /-- What the tokens of the buffer name. -/
  tokenIds : NodeMap := []
  /-- The first thing that each node of the buffer declares. -/
  nodeIds : NodeMap := []

namespace SymbolTable

/-- The table without declarations. -/
def empty (base : SymbolId) : SymbolTable :=
  { base := base }

/-- The number of declarations. -/
def size (table : SymbolTable) : Nat :=
  table.declarations.size

/-- The identity of the next declaration. -/
def nextId (table : SymbolTable) : SymbolId :=
  table.base + table.size

/-- The table with the next identity filed at a place, under a name if the place is free. -/
def fileAt (table : SymbolTable) (name : String) : Place → SymbolTable
  | .free => { table with freeIds := table.freeIds.file name table.nextId }
  | .member container => { table with memberIds := table.memberIds.file container table.nextId }
  | .lexical _ => { table with lexicalIds := table.lexicalIds ++ [table.nextId] }

/-- The table with the next identity filed under a token that names it and the node that makes it. -/
def track (table : SymbolTable) (token node : NodeId) : SymbolTable :=
  { table with
    tokenIds := table.tokenIds.insert token table.nextId
    nodeIds := table.nodeIds.insertNew node table.nextId }

/-- The table with one more declaration, under the next identity. -/
def push (table : SymbolTable) (declaration : Declaration) : SymbolTable :=
  let filed := table.fileAt declaration.name declaration.place
  let tracked :=
    match declaration.nameToken with
    | some token => filed.track token declaration.node
    | none => filed
  { tracked with
    declarations := table.declarations.push (declaration.withId table.nextId) }

/-- The table with further declarations. -/
def append (table : SymbolTable) (declarations : List Declaration) : SymbolTable :=
  declarations.foldl push table

/-- The table of a list of declarations, numbered from a base. -/
def number (base : SymbolId) (declarations : List Declaration) : SymbolTable :=
  (empty base).append declarations

/-- The declaration with an identity. -/
def get? (table : SymbolTable) (id : SymbolId) : Option Declaration :=
  if table.base ≤ id then table.declarations[id - table.base]? else none

/-- The declarations that pass a test, in order. -/
def select (table : SymbolTable) (test : Declaration → Bool) : List Declaration :=
  (table.declarations.filter test).toList

/-- The free items with a name. -/
def free (table : SymbolTable) (name : String) : List Declaration :=
  (table.freeIds.under name).filterMap table.get?

/-- The free items, name by name in an order. -/
def freeItems (table : SymbolTable) (order : NameOrder) : List Declaration :=
  (order.arrange table.freeIds.names).flatMap table.free

/-- The members of a type or a module. -/
def members (table : SymbolTable) (container : String) : List Declaration :=
  (table.memberIds.under container).filterMap table.get?

/-- The declarations with a scope of their own. -/
def lexical (table : SymbolTable) : List Declaration :=
  table.lexicalIds.filterMap table.get?

/-- The declaration that a token names: the last one, when it names several. -/
def namedBy? (table : SymbolTable) (token : NodeId) : Option Declaration :=
  (table.tokenIds.lookup token).bind table.get?

/-- The first declaration that a node makes. -/
def declaredAt? (table : SymbolTable) (node : NodeId) : Option Declaration :=
  (table.nodeIds.lookup node).bind table.get?

end SymbolTable

end SourceLens
