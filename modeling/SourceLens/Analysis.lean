import SourceLens.Doc.Parse
import SourceLens.Failure
import SourceLens.Program.Typing
import SourceLens.Semantics

/-!
# Analyses

An analysis is a program in which every identifier has been bound to the declaration that it denotes.
-/

namespace SourceLens

namespace Program

/-- What a node is bound to: identifiers without children are bound to what they denote. -/
def binding (program : Program) (node : NodeId) : Search (Option Declaration) :=
  if (program.tree.children node).isEmpty && program.tree.kind node == .identifier then
    (program.resolveToken #[] node).optional
  else .found none

/-- What every node is bound to. -/
def bindAll (program : Program) : Search Bindings := do
  return (← program.tree.ids.mapM program.binding).toArray

end Program

/-- A program with its bindings, and how its buffer is meant to be used. -/
structure Analysis where
  program : Program
  /-- What its nodes are bound to. -/
  bindings : Bindings
  /-- What the buffer is meant to become. -/
  output : OutputKind
  indentWidth : Nat

namespace Analysis

/-- The analysis of a buffer.  It exhausts the stack when the search for what a name denotes has no
end. -/
def compile (library : Library) (indentWidth : Nat) (source : String) (tree : Tree)
    (output : OutputKind) (isCancelled : Bool) : Attempt Analysis := do
  Attempt.ofOutcome (Outcome.unlessCancelled isCancelled)
  let program := Program.ofSource library source tree
  let bindings ← Attempt.orExhausted program.bindAll.toOption
  return ⟨program, bindings, output, indentWidth⟩

/-- The tree of the buffer. -/
def tree (analysis : Analysis) : Tree :=
  analysis.program.tree

/-- The source of the buffer. -/
def source (analysis : Analysis) : String :=
  analysis.program.buffer.source

/-- The declaration that a node denotes. -/
def denoted? (analysis : Analysis) (node : NodeId) : Option Declaration :=
  (analysis.program.denoted analysis.bindings node).toOption

/-- The symbol that a node denotes. -/
def bound? (analysis : Analysis) (node : NodeId) : Option Symbol :=
  (analysis.denoted? node).map Declaration.symbol

/-- The type of an expression. -/
def typeOf? (analysis : Analysis) (node : NodeId) : Option TypeText :=
  (analysis.program.infer analysis.bindings node).toOption

/-- The symbol that the token at an offset denotes. -/
def symbolAt? (analysis : Analysis) (offset : Nat) : Option Symbol := do
  analysis.bound? (← analysis.tree.tokenTouching offset)

/-- The first symbol that a node declares. -/
def declared? (analysis : Analysis) (node : NodeId) : Option Symbol :=
  (analysis.program.table.declaredAt? node).map Declaration.symbol

/-- The named type that a type refers to. -/
def typeSymbol? (analysis : Analysis) (type : TypeText) : Option Symbol :=
  ((analysis.program.free (TypeText.base type.text)).find? fun declaration =>
    declaration.symbol.isType).map Declaration.symbol

/-- The documentation of a symbol, if anything is written. -/
def documentation? (analysis : Analysis) (symbol : Symbol) : Option Doc := do
  let declaration ← analysis.program.declaration? symbol.id
  let doc := Doc.parse (← declaration.doc)
  if doc.isEmpty then none else some doc

/-- The text of a document. -/
def documentText? (analysis : Analysis) : DocumentId → Option String
  | .source => some analysis.source
  | .reference index => analysis.program.library.documents[index]?.map LoadedDocument.text

/-- The tokens that are bound to a symbol, in the order of the source. -/
def references (analysis : Analysis) (id : SymbolId) : List NodeId :=
  let tokens := analysis.tree.ids.filter fun node =>
    (analysis.bindings.known? node).any fun declaration => declaration.id == id
  tokens.mergeSort fun first second =>
    (analysis.tree.span first).start ≤ (analysis.tree.span second).start

/-- The declarations that a node may name as the target of a call. -/
def callees (analysis : Analysis) (node : NodeId) : List Declaration :=
  let program := analysis.program
  let tree := analysis.tree
  match tree.rawKind node with
  | "identifier" =>
      let name := program.text node
      let inner := (program.visibleAt (tree.span node).start).filter fun declaration =>
        declaration.name == name && declaration.symbol.isFunction
      inner ++ program.free name
  | "field_expression" =>
      match tree.childInRole node .receiver, tree.childInRole node .member with
      | some receiver, some member =>
          match analysis.typeOf? receiver with
          | some type =>
              (program.members (TypeText.base type.text)).filter fun declaration =>
                declaration.name == program.text member
          | none => []
      | _, _ => []
  | "scoped_identifier" =>
      match tree.childInRole node .receiver, tree.childInRole node .member with
      | some path, some member =>
          match program.containerOfPath path with
          | some container =>
              (program.members container).filter fun declaration =>
                declaration.name == program.text member
          | none => []
      | _, _ => []
  | _ => []

/-- The node below the type arguments of a generic function. -/
def bareFunction? (analysis : Analysis) (node : NodeId) : Option NodeId :=
  if analysis.tree.rawKind node == "generic_function" then
    analysis.tree.childInRole node (.field "function")
  else none

/-- The functions that a node may name as the target of a call. -/
def memberGroup (analysis : Analysis) (node : NodeId) : List Symbol :=
  match analysis.bareFunction? node with
  | some inner =>
      if _deeper : node < inner ∧ inner < analysis.tree.nodes.size then analysis.memberGroup inner
      else []
  | none =>
      ((analysis.callees node).map Declaration.symbol).filter Symbol.isFunction
termination_by analysis.tree.nodes.size - node
decreasing_by exact Nat.sub_lt_sub_left (Nat.lt_trans _deeper.1 _deeper.2) _deeper.1

/-- The symbol that a node denotes as a value.  Literals denote none. -/
def asValue? (analysis : Analysis) (node : NodeId) : Option Symbol :=
  if analysis.tree.kind node = .literal then none else analysis.bound? node

/-- The type or module that a node denotes as a path. -/
def asType? (analysis : Analysis) (node : NodeId) : Option TypeText :=
  (analysis.program.containerOfPath node).map TypeText.ofText

/-- Whether a function takes a receiver. -/
def hasReceiver (analysis : Analysis) (function : NodeId) : Bool :=
  (analysis.tree.childInRole function .parameters).any fun parameters =>
    analysis.program.buffer.hasChild parameters "self_parameter"

/-- Whether there is no receiver at a node. -/
def isStaticAt (analysis : Analysis) (node : NodeId) : Bool :=
  match analysis.tree.findAncestor node fun outer =>
      analysis.tree.rawKind outer == "function_item" with
  | some function => !analysis.hasReceiver function
  | none => true

end Analysis

end SourceLens
