import SourceLens.Analysis
import SourceLens.Cursor
import SourceLens.Symbol.Render
import SourceLens.Text.LowerCase

/-!
# Completions

After a path the members of a type or a module are offered, after a dot the members of the receiver's
type, and anywhere else what is in scope together with the reserved words.
-/

namespace SourceLens

/-- What a symbol is to a completion. -/
def Symbol.candidateKind (symbol : Symbol) : CandidateKind :=
  match symbol.kind with
  | .function => if symbol.receiver.isSome || symbol.container.isSome then .method else .function
  | .variable | .parameter => .variable
  | .field => .field
  | .property => .property
  | .type .struct | .type .union => .struct
  | .type .enumeration => .enumeration
  | .type .trait => .interface
  | .type .alias => .classType
  | .other "" => .variant
  | .other "const" | .other "static" => .constant
  | .other "mod" => .submodule
  | .other _ => .text

/-- The candidate of a symbol. -/
def Symbol.candidate (symbol : Symbol) : Candidate :=
  ⟨symbol.name, symbol.candidateKind, some symbol.id⟩

namespace Candidate

/-- The reserved words. -/
def reservedWords : List String :=
  ["as", "async", "await", "break", "const", "continue", "crate", "dyn", "else", "enum", "extern",
    "false", "fn", "for", "if", "impl", "in", "let", "loop", "match", "mod", "move", "mut", "pub",
    "ref", "return", "self", "Self", "static", "struct", "super", "trait", "true", "type", "unsafe",
    "use", "where", "while"]

/-- The candidate of a reserved word. -/
def ofWord (word : String) : Candidate :=
  ⟨word, .keyword, none⟩

/-- The first candidate of each label, without empty labels. -/
def distinct : List Candidate → List Candidate
  | [] => []
  | candidate :: candidates =>
      let others := (distinct candidates).filter fun other => other.label != candidate.label
      if candidate.label.isEmpty then others else candidate :: others

/-- The key by which candidates are ordered. -/
def sortKey (candidate : Candidate) : String :=
  Text.mapChars Text.lower candidate.label

/-- The first candidate of each label, ordered by label without regard to case. -/
def arrange (candidates : List Candidate) : List Candidate :=
  let keyed := (distinct candidates).map fun candidate => (candidate.sortKey, candidate)
  (keyed.mergeSort fun first second => first.1 ≤ second.1).map Prod.snd

end Candidate

/-- The orders in which the free items are gone through by name. -/
structure NameOrders where
  own : NameOrder
  library : NameOrder

/-- The orders in which the names were filed. -/
def NameOrders.asFiled : NameOrders :=
  ⟨.asFiled, .asFiled⟩

namespace Analysis

/-- The members of what a name before two colons denotes. -/
def pathMembers (analysis : Analysis) (name : String) (offset : Nat) : List Symbol :=
  match analysis.program.containerNamed name offset with
  | some container => (analysis.program.members container).map Declaration.symbol
  | none => []

/-- The type of a declaration as a link of a chain. -/
def linkType? (analysis : Analysis) (isCall : Bool) (declaration : Declaration) : Option TypeText :=
  if isCall then Program.resultType declaration
  else (analysis.program.valueType analysis.bindings declaration).toOption

/-- The type of a member as the next link of a chain. -/
def nextLink? (analysis : Analysis) (type : TypeText) (segment : Segment) : Option TypeText := do
  let preference := if segment.isCall then Preference.function else .value
  let member ← analysis.program.memberNamed (TypeText.base type.text) segment.name preference
  analysis.linkType? segment.isCall member

/-- The type of a chain of receivers at an offset. -/
def chainType? (analysis : Analysis) (offset : Nat) : List Segment → Option TypeText
  | [] => none
  | first :: rest => do
      let declaration ← analysis.program.resolveName first.name offset
      let type ← analysis.linkType? first.isCall declaration
      rest.foldlM analysis.nextLink? type

/-- Whether a symbol can be reached through a value. -/
def isInstanceMember (symbol : Symbol) : Bool :=
  match symbol.kind with
  | .function => symbol.receiver.isSome
  | .field | .property => true
  | _ => false

/-- The members of the type of a chain of receivers. -/
def receiverMembers (analysis : Analysis) (chain : List Segment) (offset : Nat) : List Symbol :=
  match analysis.chainType? offset chain with
  | some type =>
      ((analysis.program.members (TypeText.base type.text)).map Declaration.symbol).filter
        isInstanceMember
  | none => []

/-- What is in scope at an offset, with the reserved words, given the free items of the buffer and of
the library. -/
def scopeCandidates (analysis : Analysis) (own others : List Declaration) (offset : Nat) :
    List Candidate :=
  let visible := (analysis.program.visibleAt offset).mergeSort fun first second =>
    second.scopeStart ≤ first.scopeStart
  Candidate.arrange
    ((visible ++ own ++ others).map (fun declaration => declaration.symbol.candidate) ++
      Candidate.reservedWords.map Candidate.ofWord)

/-- What can be inserted in a context, with the cursor at an offset. -/
def candidatesIn (analysis : Analysis) (orders : NameOrders) (offset : Nat) :
    Cursor.Context → List Candidate
  | .path name start => Candidate.arrange ((analysis.pathMembers name start).map Symbol.candidate)
  | .receiver chain =>
      Candidate.arrange ((analysis.receiverMembers chain offset).map Symbol.candidate)
  | .scope =>
      analysis.scopeCandidates (analysis.program.table.freeItems orders.own)
        (analysis.program.library.table.freeItems orders.library) offset

/-- What can be inserted at an offset. -/
def completions (analysis : Analysis) (orders : NameOrders) (offset : Nat) (isCancelled : Bool) :
    Outcome (List Candidate) := do
  Outcome.unlessCancelled isCancelled
  let cursor ← Outcome.orCrash (Cursor.clamp? analysis.source offset)
  let context ← Outcome.orCrash (Cursor.context? analysis.source cursor)
  return analysis.candidatesIn orders cursor context

/-- The description of a candidate: its declaration and the summary of its documentation. -/
def describe (analysis : Analysis) (candidate : Candidate) : Option String :=
  match candidate.symbol with
  | none => some (candidate.label ++ " Keyword")
  | some id => do
      let declaration ← analysis.program.declaration? id
      let text ← declaration.symbol.declaration?
      match declaration.doc.bind fun doc => (Doc.parse doc).summary with
      | some summary => return text ++ "\n" ++ Text.mapChars Text.collapse summary
      | none => return text

end Analysis

end SourceLens
