import SourceLens.Doc.Markup
import SourceLens.Json
import SourceLens.Snapshot
import SourceLens.Symbol.Render
import SourceLens.Tree.Lookup

/-!
# Signature help

Inside the arguments of a call, the functions that may be called are listed.  The one whose parameters
fit the arguments best is active, and so is the parameter that the cursor is at.
-/

namespace SourceLens

/-- A parameter as signature help shows it. -/
structure ParameterHelp where
  label : String
  documentation : Option String
  deriving DecidableEq, Repr

/-- A function as signature help shows it. -/
structure Signature where
  label : String
  documentation : Option String
  parameters : List ParameterHelp
  deriving DecidableEq, Repr

/-- What signature help shows. -/
structure SignatureHelp where
  signatures : List Signature
  /-- The position of the parameter at the cursor. -/
  activeParameter : Nat
  /-- The position of the function that fits best. -/
  activeSignature : Nat
  deriving DecidableEq, Repr

/-- A parameter as an editor reads it. -/
def ParameterHelp.toJson (help : ParameterHelp) : Json :=
  .object [("Label", .string help.label), ("Documentation", .optionString help.documentation)]

/-- A function as an editor reads it. -/
def Signature.toJson (signature : Signature) : Json :=
  .object [("Label", .string signature.label),
    ("Documentation", .optionString signature.documentation),
    ("Parameters", .array (signature.parameters.map ParameterHelp.toJson))]

/-- Signature help as an editor reads it. -/
def SignatureHelp.toJson (help : SignatureHelp) : Json :=
  .object [("Signatures", .array (help.signatures.map Signature.toJson)),
    ("ActiveParameter", .nat help.activeParameter),
    ("ActiveSignature", .nat help.activeSignature)]

/-- A call, a construction or an attribute around a cursor. -/
structure Invocation where
  /-- What is called, or the whole when nothing is named. -/
  target : NodeId
  arguments : NodeId
  deriving DecidableEq, Repr

namespace Tree

/-- Whether a list of arguments holds an offset.  The end of a list counts when its closing bracket is
missing. -/
def argumentsHold (tree : Tree) (arguments : NodeId) (offset : Nat) : Bool :=
  (tree.span arguments).contains offset ||
    ((tree.children arguments).getLast?.any (fun last => (tree.node last).missing) &&
      offset == (tree.span arguments).stop)

/-- The invocation that a node is, if its arguments hold an offset. -/
def invocationAt? (tree : Tree) (offset : Nat) (node : NodeId) : Option Invocation :=
  if (tree.kind node).takesArguments then do
    let arguments ← tree.childInRole node .arguments
    if tree.argumentsHold arguments offset then
      some ⟨(tree.childInRole node .target).getD node, arguments⟩
    else none
  else none

/-- The innermost invocation whose arguments hold an offset. -/
def findInvocation? (tree : Tree) (offset : Nat) : Option Invocation := do
  let start ← tree.coveringNode offset
  (tree.ancestors start).findSome? (tree.invocationAt? offset)

/-- The arguments of a list. -/
def argumentsOf (tree : Tree) (list : NodeId) : List NodeId :=
  (tree.children list).filter fun child =>
    !(tree.kind child).isFiller && !(tree.node child).missing

/-- The number of separators of a list that start at or before an offset. -/
def separatorsBefore (tree : Tree) (list : NodeId) (offset : Nat) : Nat :=
  ((tree.childrenOfKind list .separator).takeWhile fun separator =>
    (tree.span separator).start ≤ offset).length

end Tree

/-- How well a parameter fits an argument, of which the type may be unknown. -/
def Parameter.score (parameter : Parameter) : Option TypeText → Nat
  | none => 1
  | some type => if parameter.type = some type then 2 else 0

/-- How well the parameters of a function fit some arguments.  Too few parameters do not fit at all. -/
def Symbol.score? (symbol : Symbol) (arguments : List (Option TypeText)) : Option Nat :=
  if symbol.parameters.length < arguments.length then none
  else
    let scores := List.zipWith (fun argument parameter => Parameter.score parameter argument)
      arguments symbol.parameters
    some (scores.foldr (· + ·) 0)

/-- The first function that fits some arguments best, with its score. -/
def Symbol.bestFit? (arguments : List (Option TypeText)) :
    List Symbol → Option (Symbol × Nat)
  | [] => none
  | symbol :: symbols =>
      match symbol.score? arguments, bestFit? arguments symbols with
      | some score, some (other, otherScore) =>
          if score < otherScore then some (other, otherScore) else some (symbol, score)
      | some score, none => some (symbol, score)
      | none, best => best

namespace Snapshot

/-- The functions of a group that can be reached through a receiver. -/
def reachableThrough (snapshot : Snapshot) (receiver : NodeId) (group : List Symbol) :
    List Symbol :=
  let value := snapshot.semantics.asValue receiver
  let type := snapshot.semantics.asType receiver
  let kind := snapshot.tree.kind receiver
  let includesInstance := value.any (fun symbol => !symbol.isType) || kind == .literal ||
    kind == .typeOf || type.isNone
  let includesStatic := value.any Symbol.isType || type.isSome
  group.filter fun symbol =>
    if symbol.modifiers.isStatic then includesStatic else includesInstance

/-- The functions that an invocation may call. -/
def callables (snapshot : Snapshot) (target : NodeId) : List Symbol :=
  let group := snapshot.semantics.memberGroup target
  match snapshot.tree.kind target with
  | .memberAccess =>
      match snapshot.tree.childInRole target .receiver with
      | some receiver => snapshot.reachableThrough receiver group
      | none => group
  | .identifier =>
      if snapshot.semantics.isStaticAt target then
        group.filter fun symbol => symbol.modifiers.isStatic || symbol.modifiers.isLocalFunction
      else group
  | _ => group

/-- A function as signature help shows it. -/
def signatureOf (snapshot : Snapshot) (symbol : Symbol) : Signature :=
  let doc := snapshot.semantics.documentation symbol
  { label := symbol.signatureLabel
    documentation := Doc.summaryText? doc
    parameters := symbol.parameters.map fun parameter =>
      ⟨Parameter.label parameter.name parameter.type, Doc.paramText? doc parameter.name⟩ }

/-- The functions as signature help shows them, the first one of each label. -/
def distinctSignatures (snapshot : Snapshot) : List Symbol → List Signature
  | [] => []
  | symbol :: symbols =>
      let signature := snapshot.signatureOf symbol
      signature :: (snapshot.distinctSignatures symbols).filter fun other =>
        other.label != signature.label

/-- The position of a label among some signatures. -/
def positionOf (signatures : List Signature) (label : String) : Nat :=
  (signatures.findIdx? fun signature => signature.label == label).getD 0

/-- Signature help for an invocation. -/
def helpFor (snapshot : Snapshot) (invocation : Invocation) (offset : Nat) : SignatureHelp :=
  let arguments := (snapshot.tree.argumentsOf invocation.arguments).map snapshot.semantics.typeOf
  let callables := snapshot.callables invocation.target
  let signatures := snapshot.distinctSignatures callables
  { signatures := signatures
    activeParameter := snapshot.tree.separatorsBefore invocation.arguments offset
    activeSignature :=
      match Symbol.bestFit? arguments callables with
      | some (symbol, _) => positionOf signatures symbol.signatureLabel
      | none => 0 }

/-- Signature help at an offset. -/
def signatureHelp (snapshot : Snapshot) (offset : Nat) (isCancelled : Bool) :
    Outcome (Option SignatureHelp) := do
  Outcome.unlessCancelled isCancelled
  return (snapshot.tree.findInvocation? offset).map fun invocation =>
    snapshot.helpFor invocation offset

end Snapshot

end SourceLens
