import SourceLens.Declaration
import SourceLens.Document

/-!
# Patterns

A pattern declares a variable for each identifier in it that is no path, no type and does not start
with a capital letter.
-/

namespace SourceLens.Document

/-- Whether a text starts with an ASCII capital letter. -/
def startsWithCapital (text : String) : Bool :=
  match text.toList with
  | first :: _ => first.isUpper
  | [] => false

/-- Whether a node lies inside a node whose kind has a name in the grammar. -/
def parentIs (document : Document) (node : NodeId) (rawKind : String) : Bool :=
  (document.tree.parent node).any fun parent => document.tree.rawKind parent == rawKind

/-- Whether a token of a pattern declares a variable. -/
def isPatternName (document : Document) (token : NodeId) : Bool :=
  let rawKind := document.tree.rawKind token
  (rawKind == "identifier" || rawKind == "shorthand_field_identifier") &&
    document.tree.role token != some .type && !document.parentIs token "scoped_identifier" &&
    !startsWithCapital (document.text token)

/-- The tokens of a pattern that declare variables, in order. -/
def patternNames (document : Document) (pattern : NodeId) : List NodeId :=
  let span := document.tree.span pattern
  document.tree.tokens.toList.filter fun token =>
    span.covers (document.tree.span token) && document.tree.isWithin token pattern &&
      document.isPatternName token

/-- What the variables of a pattern have in common. -/
structure PatternUse where
  node : NodeId
  /-- The part of the source in which the variables are visible. -/
  scope : Option Span
  type : Option TypeText := none
  /-- The node from which the whole pattern gets its value. -/
  initializer : Option NodeId := none
  kind : SymbolKind

/-- Whether a pattern consists of a single name. -/
def isLoneName (document : Document) (pattern : NodeId) : List NodeId → Bool
  | [token] => document.tree.span token == document.tree.span pattern
  | _ => false

/-- The variable that a token of a pattern declares.  Type and initial value of the pattern are those
of the variable when the pattern is a single name. -/
def patternVariable (document : Document) (use : PatternUse) (isLone : Bool) (token : NodeId) :
    Declaration :=
  let isMutable :=
    document.hasChild use.node "mutable_specifier" || document.parentIs token "mut_pattern"
  { symbol :=
      { name := document.text token
        kind := use.kind
        modifiers := { isReadonly := !isMutable }
        type := if isLone then use.type else none
        locations := [⟨document.id, document.tree.span token⟩] }
    place := .lexical use.scope
    node := use.node
    nameToken := document.nameToken? token
    initializer := if isLone then use.initializer else none }

/-- The variables that a pattern declares. -/
def patternVariables (document : Document) (use : PatternUse) (pattern : NodeId) :
    List Declaration :=
  let names := document.patternNames pattern
  names.map (document.patternVariable use (document.isLoneName pattern names))

end SourceLens.Document
