import SourceLens.Doc.Markup
import SourceLens.Json
import SourceLens.Snapshot
import SourceLens.Symbol.Render
import SourceLens.Tree.Lookup

/-!
# Hovers

A hover shows the declaration and the documentation of the symbol at a cursor.
-/

namespace SourceLens

/-- What a hover shows. -/
structure HoverInfo where
  information : String
  /-- The range of the token, in UTF-16 units. -/
  range : Nat × Nat
  deriving DecidableEq, Repr

/-- A hover as an editor reads it. -/
def HoverInfo.toJson (hover : HoverInfo) : Json :=
  .object [("Information", .string hover.information), ("OffsetFrom", .nat hover.range.1),
    ("OffsetTo", .nat hover.range.2)]

namespace Snapshot

/-- The role through which a token belongs to a declaration around it. -/
def roleIn (snapshot : Snapshot) (token declaration : NodeId) : Option Role := do
  let path := (snapshot.tree.ancestors token).takeWhile (· != declaration)
  snapshot.tree.role (← path.getLast?)

/-- The symbol that a token denotes, or the named type of its value. -/
def denotedSymbol? (snapshot : Snapshot) (token : NodeId) : Option Symbol :=
  (snapshot.semantics.bound token).or <|
    if snapshot.tree.kind token = .identifier then do
      snapshot.semantics.typeSymbol (← snapshot.semantics.typeOf token)
    else none

/-- The symbol to show for a token.  The name of a declaration stands for what is declared. -/
def hoveredSymbol? (snapshot : Snapshot) (token : NodeId) : Option Symbol :=
  match snapshot.tree.findAncestor token fun node => (snapshot.tree.kind node).isDeclaration with
  | some declaration =>
      if snapshot.roleIn token declaration = some .name then
        snapshot.semantics.declared declaration
      else snapshot.denotedSymbol? token
  | none => snapshot.denotedSymbol? token

/-- A symbol with the type of its use, when it is a variable that was declared without one. -/
def withUseType (snapshot : Snapshot) (symbol : Symbol) (token : NodeId) : Symbol :=
  if symbol.type.isNone && symbol.isLocal then
    { symbol with type := snapshot.semantics.typeOf token }
  else symbol

/-- The hover of a token. -/
def hoverToken? (snapshot : Snapshot) (token : NodeId) : Option HoverInfo := do
  let symbol := snapshot.withUseType (← snapshot.hoveredSymbol? token) token
  let declaration ← symbol.declaration?
  let doc := snapshot.semantics.documentation symbol
  return ⟨Doc.hoverText snapshot.semantics.language declaration doc,
    snapshot.units (snapshot.tree.span token)⟩

/-- The hover at an offset. -/
def hover (snapshot : Snapshot) (offset : Nat) (isCancelled : Bool) :
    Outcome (Option HoverInfo) := do
  Outcome.unlessCancelled isCancelled
  return (snapshot.tree.tokenTouching offset).bind snapshot.hoverToken?

end Snapshot

end SourceLens
