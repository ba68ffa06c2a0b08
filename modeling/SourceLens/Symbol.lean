import SourceLens.Symbol.TypeText
import SourceLens.Text.Span

/-!
# Symbols

A symbol describes something that a program declares: what it is, how it is reached, its types and
where it was declared.  Symbols are what models answer with and what queries render.
-/

namespace SourceLens

/-- The identity of a symbol within one model. -/
abbrev SymbolId := Nat

/-- The document that a location lies in. -/
inductive DocumentId where
  | source
  | reference (index : Nat)
  deriving DecidableEq, Repr

/-- A place in a document. -/
structure Location where
  document : DocumentId
  span : Span
  deriving DecidableEq, Repr

/-- Who may use a symbol. -/
inductive Access where
  | everyone
  | crate
  | restricted (path : String)
  /-- The module that declares it. -/
  | hidden
  deriving DecidableEq, Repr

/-- The kinds of named types. -/
inductive TypeKind where
  | struct
  | enumeration
  | trait
  | union
  | alias
  deriving DecidableEq, Repr

/-- What a symbol is. -/
inductive SymbolKind where
  | function
  | variable
  | field
  | property
  | type (kind : TypeKind)
  | parameter
  /-- Anything else, by the keyword that introduces it. -/
  | other (keyword : String)
  deriving DecidableEq, Repr

/-- The modifiers of a declaration. -/
structure Modifiers where
  /-- Reached without an instance. -/
  isStatic : Bool := false
  /-- A constant, or a function that can be evaluated early. -/
  isConst : Bool := false
  /-- Not to be assigned. -/
  isReadonly : Bool := false
  /-- An asynchronous function. -/
  isAsync : Bool := false
  /-- A function with unchecked obligations. -/
  isUnchecked : Bool := false
  /-- A function declared in the body of another one. -/
  isLocalFunction : Bool := false
  deriving DecidableEq, Repr

/-- A parameter of a function. -/
structure Parameter where
  /-- The pattern as written. -/
  name : String
  type : Option TypeText
  deriving DecidableEq, Repr

/-- A declared thing. -/
structure Symbol where
  /-- Its identity in the model. -/
  id : SymbolId := 0
  name : String := ""
  kind : SymbolKind
  /-- Who may use it. -/
  access : Access := .hidden
  modifiers : Modifiers := {}
  /-- The declared type of a value, or what an alias stands for. -/
  type : Option TypeText := none
  /-- The type or module around it. -/
  container : Option String := none
  /-- Type parameters as written. -/
  typeParameters : List String := []
  /-- The receiver of a method as written. -/
  receiver : Option String := none
  /-- Parameters apart from the receiver. -/
  parameters : List Parameter := []
  returnType : Option TypeText := none
  locations : List Location := []
  deriving DecidableEq, Repr

namespace Symbol

/-- Whether the symbol is a named type. -/
def isType (symbol : Symbol) : Bool :=
  match symbol.kind with
  | .type _ => true
  | _ => false

/-- Whether the symbol is a function or a method. -/
def isFunction (symbol : Symbol) : Bool :=
  symbol.kind == .function

/-- Whether the symbol is a local variable or a parameter. -/
def isLocal (symbol : Symbol) : Bool :=
  symbol.kind == .variable || symbol.kind == .parameter

/-- The places of the buffer that declare the symbol. -/
def sourceSpans (symbol : Symbol) : List Span :=
  (symbol.locations.filter fun location => location.document == .source).map Location.span

/-- A named type as a type. -/
def asType? (symbol : Symbol) : Option TypeText :=
  if symbol.isType then some (.ofText symbol.name) else none

end Symbol

end SourceLens
