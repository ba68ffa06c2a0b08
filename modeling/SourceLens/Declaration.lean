import SourceLens.Symbol
import SourceLens.Tree

/-!
# Declarations

A declaration is a symbol together with what is needed to find it again: the place in which its name
is looked up, the node that declares it and the token that names it.
-/

namespace SourceLens

/-- Where the name of a declaration is looked up. -/
inductive Place where
  | free
  | member (container : String)
  /-- In the part of the source that its scope covers, if it has one. -/
  | lexical (scope : Option Span)
  deriving DecidableEq, Repr

namespace Place

/-- The type or module whose member is declared. -/
def container? : Place → Option String
  | member container => some container
  | _ => none

/-- The part of the source in which the name is visible. -/
def scope? : Place → Option Span
  | lexical scope => scope
  | _ => none

/-- Whether the name is looked up by scope. -/
def isLexical : Place → Bool
  | lexical _ => true
  | _ => false

end Place

/-- A declared symbol and how it is found. -/
structure Declaration where
  symbol : Symbol
  /-- Where its name is looked up. -/
  place : Place
  /-- The declaring node, in the tree of the declaring document. -/
  node : NodeId
  /-- The token of the buffer that names it.  Declarations of references and positional fields have
  none. -/
  nameToken : Option NodeId
  /-- The body of its documentation comment. -/
  doc : Option String := none
  /-- The node from which a variable gets its value. -/
  initializer : Option NodeId := none
  /-- Whether it belongs to the implementation of a trait. -/
  implementsTrait : Bool := false
  deriving DecidableEq, Repr

namespace Declaration

/-- The declared name. -/
def name (declaration : Declaration) : String :=
  declaration.symbol.name

/-- The identity of the declared symbol. -/
def id (declaration : Declaration) : SymbolId :=
  declaration.symbol.id

/-- The offset at which the scope begins. -/
def scopeStart (declaration : Declaration) : Nat :=
  (declaration.place.scope?.map Span.start).getD 0

/-- Whether the scope reaches an offset. -/
def isVisibleAt (declaration : Declaration) (offset : Nat) : Bool :=
  declaration.place.scope?.any fun scope => scope.touches offset

/-- The bytes of the declared name. -/
def nameSpan (declaration : Declaration) : Span :=
  (declaration.symbol.locations.head?.map Location.span).getD (.empty 0)

/-- The same declaration under another identity. -/
def withId (declaration : Declaration) (id : SymbolId) : Declaration :=
  { declaration with symbol := { declaration.symbol with id := id } }

end Declaration

end SourceLens
