import SourceLens.Analysis
import SourceLens.Edit

/-!
# Renaming

Renaming a symbol replaces every token that is bound to it.  A token that names a field and a variable
at once is written out, so that only the renamed one changes.
-/

namespace SourceLens.Analysis

/-- Whether a token names a field and a variable at once. -/
def isShorthand (analysis : Analysis) (token : NodeId) : Bool :=
  match analysis.tree.rawKind token with
  | "shorthand_field_identifier" => true
  | "identifier" => analysis.program.buffer.parentIs token "shorthand_field_initializer"
  | _ => false

/-- The field that a token names together with a variable. -/
def shorthandField? (analysis : Analysis) (token : NodeId) : Option Declaration :=
  if analysis.tree.rawKind token == "shorthand_field_identifier" then
    analysis.program.matchedField? token
  else analysis.program.constructedField? token

/-- The edit of a token that is bound to the renamed symbol. -/
def referenceEdit (analysis : Analysis) (newName : String) (token : NodeId) : Edit :=
  let text :=
    if analysis.isShorthand token then analysis.program.text token ++ ": " ++ newName else newName
  ⟨analysis.tree.span token, text.toList⟩

/-- The edit of a token that names the renamed field together with a variable. -/
def shorthandEdit (analysis : Analysis) (newName : String) (token : NodeId) : Edit :=
  ⟨analysis.tree.span token, (newName ++ ": " ++ analysis.program.text token).toList⟩

/-- The tokens that name a field together with a variable and are not bound to the field. -/
def shorthandUses (analysis : Analysis) (field : SymbolId) : List NodeId :=
  let references := analysis.references field
  analysis.tree.tokens.toList.filter fun token =>
    !references.contains token && analysis.isShorthand token &&
      (analysis.shorthandField? token).any fun declaration => declaration.id == field

/-- The edits of the buffer that rename a symbol. -/
def renameEdits (analysis : Analysis) (symbol : Symbol) (newName : String) : List Edit :=
  let edits := (analysis.references symbol.id).map (analysis.referenceEdit newName)
  if symbol.kind = .field then
    (edits ++ (analysis.shorthandUses symbol.id).map (analysis.shorthandEdit newName)).mergeSort
      fun first second => first.span.start ≤ second.span.start
  else edits

/-- The edits that rename a symbol, by document. -/
def rename (analysis : Analysis) (symbol : Symbol) (newName : String) (isCancelled : Bool) :
    Outcome (List (DocumentId × List Edit)) := do
  Outcome.unlessCancelled isCancelled
  let edits := analysis.renameEdits symbol newName
  return if edits.isEmpty then [] else [(.source, edits)]

end SourceLens.Analysis
