import SourceLens.Symbol
import SourceLens.Text.Blank
import SourceLens.Tree

/-!
# Documents

A document is a source with its tree: the buffer of a request, or a reference that was loaded.
-/

namespace SourceLens

/-- A source with its tree. -/
structure Document where
  id : DocumentId
  source : String
  tree : Tree

namespace Document

/-- The part of the source that a node covers. -/
def text (document : Document) (node : NodeId) : String :=
  document.tree.text document.source node

/-- The text of the first child in a role. -/
def roleText? (document : Document) (node : NodeId) (role : Role) : Option String :=
  (document.tree.childInRole node role).map document.text

/-- The type that the first child in a role denotes. -/
def roleType? (document : Document) (node : NodeId) (role : Role) : Option TypeText :=
  (document.roleText? node role).map TypeText.ofText

/-- Whether a node has a child whose kind has a name in the grammar. -/
def hasChild (document : Document) (node : NodeId) (rawKind : String) : Bool :=
  (document.tree.childOfRawKind node rawKind).isSome

/-- The token that names a declaration.  Only the tokens of the buffer are remembered. -/
def nameToken? (document : Document) (token : NodeId) : Option NodeId :=
  if document.id = .source then some token else none

end Document

end SourceLens
