import SourceLens.Doc
import SourceLens.Edit
import SourceLens.Failure
import SourceLens.Symbol
import SourceLens.Tree

/-!
# Semantics

What queries may ask about a buffer, whatever language it is written in.  Every operation that can
take long is told whether the request was cancelled.
-/

namespace SourceLens

/-- What the buffer is meant to become. -/
inductive OutputKind where
  | library
  | executable
  deriving DecidableEq, Repr

/-- The name of an output kind. -/
def OutputKind.name : OutputKind → String
  | .library => "Library"
  | .executable => "Executable"

/-- The output kind with a name, with or without a capital. -/
def OutputKind.ofName? : String → Option OutputKind
  | "Library" | "library" => some .library
  | "Executable" | "executable" => some .executable
  | _ => none

/-- What a completion offers. -/
inductive CandidateKind where
  | text
  | method
  | function
  | variable
  | field
  | property
  | struct
  | enumeration
  | interface
  | classType
  | variant
  | constant
  | submodule
  | keyword
  deriving DecidableEq, Repr

/-- Something that a completion offers. -/
structure Candidate where
  /-- The text to insert. -/
  label : String
  kind : CandidateKind
  /-- The symbol behind it, if there is one. -/
  symbol : Option SymbolId
  deriving DecidableEq, Repr

/-- How serious a diagnostic is. -/
inductive Severity where
  | error
  | warning
  | information
  | hint
  deriving DecidableEq, Repr

/-- A remark about a part of the buffer. -/
structure Diagnostic where
  code : String
  severity : Severity
  message : String
  span : Span
  deriving DecidableEq, Repr

/-- The answers to what can be asked about a buffer. -/
structure Semantics where
  language : String
  documentText : DocumentId → Option String
  diagnostics : Bool → Outcome (List Diagnostic)
  /-- The symbol that the token at an offset declares or denotes. -/
  symbolAt : Nat → Option Symbol
  /-- The symbol that a node declares. -/
  declared : NodeId → Option Symbol
  /-- The symbol that a node denotes. -/
  bound : NodeId → Option Symbol
  typeOf : NodeId → Option TypeText
  /-- The named type that a type refers to. -/
  typeSymbol : TypeText → Option Symbol
  /-- The declaration behind a symbol. -/
  findDeclaration : Symbol → Option Symbol
  documentation : Symbol → Option Doc
  /-- The functions that the target of a call may name. -/
  memberGroup : NodeId → List Symbol
  /-- The symbol that a node denotes as a value. -/
  asValue : NodeId → Option Symbol
  /-- The type that a node denotes as a path. -/
  asType : NodeId → Option TypeText
  /-- Whether there is no instance at a node. -/
  isStaticAt : NodeId → Bool
  /-- What can be inserted at an offset. -/
  completions : Nat → Bool → Outcome (List Candidate)
  /-- A description of a candidate. -/
  describe : Candidate → Option String
  /-- The edits that lay out the buffer, or a part of it. -/
  formatEdits : Option Span → Bool → Outcome (List Edit)
  /-- The edits that rename a symbol, by document. -/
  rename : Symbol → String → Bool → Outcome (List (DocumentId × List Edit))

end SourceLens
