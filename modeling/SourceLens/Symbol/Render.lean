import SourceLens.Symbol

/-!
# Rendering symbols

Hovers show the declaration of a symbol, signature help a shorter label.
-/

namespace SourceLens

/-- The visibility as a declaration starts with it. -/
def Access.render : Access → String
  | .everyone => "pub "
  | .crate => "pub(crate) "
  | .restricted path => "pub(" ++ path ++ ") "
  | .hidden => ""

/-- The keyword that introduces a type. -/
def TypeKind.keyword : TypeKind → String
  | .struct => "struct"
  | .enumeration => "enum"
  | .trait => "trait"
  | .union => "union"
  | .alias => "type"

/-- A name with its type, if it has one. -/
def Parameter.label (name : String) : Option TypeText → String
  | some type => name ++ ": " ++ type.text
  | none => name

namespace Symbol

/-- The name after the container. -/
def qualifiedName (symbol : Symbol) (separator : String) : String :=
  match symbol.container with
  | some container => container ++ separator ++ symbol.name
  | none => symbol.name

/-- The type parameters in angle brackets. -/
def generics (symbol : Symbol) : String :=
  if symbol.typeParameters.isEmpty then ""
  else "<" ++ String.intercalate ", " symbol.typeParameters ++ ">"

/-- The labels of the parameters. -/
def parameterLabels (symbol : Symbol) : List String :=
  symbol.parameters.map fun parameter => Parameter.label parameter.name parameter.type

/-- A text before a type, when there is one. -/
def typeAfter (lead : String) : Option TypeText → String
  | some type => lead ++ type.text
  | none => ""

/-- The label of a function in signature help.  The receiver is no part of it. -/
def signatureLabel (symbol : Symbol) : String :=
  symbol.qualifiedName "::" ++ symbol.generics ++ "(" ++
    String.intercalate ", " symbol.parameterLabels ++ ")" ++ typeAfter " -> " symbol.returnType

/-- A word and a space, when the modifier is set. -/
def modifierWord (isSet : Bool) (word : String) : String :=
  if isSet then word ++ " " else ""

/-- The declaration of a function. -/
def renderFunction (symbol : Symbol) : String :=
  symbol.access.render ++ modifierWord symbol.modifiers.isConst "const" ++
    modifierWord symbol.modifiers.isAsync "async" ++
    modifierWord symbol.modifiers.isUnchecked "unsafe" ++ "fn " ++ symbol.qualifiedName "::" ++
    symbol.generics ++ "(" ++
    String.intercalate ", " (symbol.receiver.toList ++ symbol.parameterLabels) ++ ")" ++
    typeAfter " -> " symbol.returnType

/-- The declaration of a local variable. -/
def renderVariable (symbol : Symbol) : String :=
  "let " ++ modifierWord (!symbol.modifiers.isReadonly) "mut" ++ symbol.name ++
    typeAfter ": " symbol.type

/-- The declaration of a field or a property. -/
def renderMember (symbol : Symbol) (label : String) : String :=
  "(" ++ label ++ ") " ++ symbol.access.render ++ symbol.qualifiedName "." ++
    typeAfter ": " symbol.type

/-- The declaration of a named type. -/
def renderType (symbol : Symbol) (kind : TypeKind) : String :=
  symbol.access.render ++ kind.keyword ++ " " ++ symbol.qualifiedName "::" ++ symbol.generics ++
    if kind = .alias then typeAfter " = " symbol.type else ""

/-- The declaration of anything else. -/
def renderOther (symbol : Symbol) (keyword : String) : String :=
  symbol.access.render ++ modifierWord (!keyword.isEmpty) keyword ++ symbol.qualifiedName "::" ++
    typeAfter ": " symbol.type

/-- The declaration of a symbol.  A symbol without a name has nothing to show. -/
def declaration? (symbol : Symbol) : Option String :=
  if symbol.name.isEmpty then none
  else
    some (match symbol.kind with
      | .function => symbol.renderFunction
      | .variable => symbol.renderVariable
      | .field => symbol.renderMember "field"
      | .property => symbol.renderMember "property"
      | .type kind => symbol.renderType kind
      | .parameter => "(parameter) " ++ Parameter.label symbol.name symbol.type
      | .other keyword => symbol.renderOther keyword)

end Symbol

end SourceLens
