import SourceLens.Program.Names
import SourceLens.Text.Occurrence

/-!
# Types of expressions

The type of an expression rests on a literal, on the declaration that the expression denotes, on the
result of what it calls, or on another expression.  A member is looked up in the type of its
receiver, so that names and types depend on each other.
-/

namespace SourceLens

/-- What the declarations of tokens are already known to be, by node. -/
abbrev Bindings := Array (Option Declaration)

/-- The declaration that a node is known to denote. -/
def Bindings.known? (bindings : Bindings) (node : NodeId) : Option Declaration :=
  bindings.getD node none

/-- What the type of an expression rests on. -/
inductive Evidence where
  | known (type : TypeText)
  /-- The type of the declaration that the expression denotes. -/
  | denoted
  | result (target : NodeId)
  /-- The type of another expression. -/
  | same (node : NodeId)
  /-- A reference to the type of another expression. -/
  | reference (isMutable : Bool) (node : NodeId)
  /-- What the type of another expression refers to. -/
  | referent (node : NodeId)
  | unknown
  deriving DecidableEq, Repr

namespace Evidence

/-- The evidence about a node that may be missing. -/
def about (evidence : NodeId → Evidence) : Option NodeId → Evidence
  | some node => evidence node
  | none => unknown

/-- The evidence of a text that shows the type. -/
def shown (text : String) : Evidence :=
  known (.ofText text)

/-- The first of some suffixes that a literal ends with, or a default. -/
def suffixOr (default : String) (suffixes : List String) (literal : String) : String :=
  (suffixes.find? fun suffix => suffix.toList.isSuffixOf literal.toList).getD default

/-- The suffixes of integers. -/
def integerSuffixes : List String :=
  ["u128", "i128", "usize", "isize", "u64", "i64", "u32", "i32", "u16", "i16", "u8", "i8"]

/-- The suffixes of floating point numbers. -/
def floatSuffixes : List String :=
  ["f32", "f64"]

/-- The operators whose result is a truth value. -/
def isTest (operator : String) : Bool :=
  ["==", "!=", "<", ">", "<=", ">=", "&&", "||"].contains operator

end Evidence

namespace Program

/-- What the type of the construction of a value rests on. -/
def constructionEvidence (program : Program) (node : NodeId) : Evidence :=
  match program.buffer.roleText? node .name with
  | some "Self" =>
      match program.selfTypeAt (program.tree.span node).start with
      | some type => .shown type
      | none => .unknown
  | some name => .shown (TypeText.base name)
  | none => .unknown

/-- What the type of a node rests on. -/
def evidence (program : Program) (node : NodeId) : Evidence :=
  let tree := program.tree
  match tree.rawKind node with
  | "integer_literal" =>
      .shown (Evidence.suffixOr "i32" Evidence.integerSuffixes (program.text node))
  | "float_literal" =>
      .shown (Evidence.suffixOr "f64" Evidence.floatSuffixes (program.text node))
  | "string_literal" | "raw_string_literal" => .shown "&str"
  | "char_literal" => .shown "char"
  | "boolean_literal" => .shown "bool"
  | "identifier" | "self" | "shorthand_field_identifier" | "field_identifier"
  | "scoped_identifier" | "field_expression" => .denoted
  | "call_expression" => .about .result (tree.childInRole node .target)
  | "struct_expression" => program.constructionEvidence node
  | "reference_expression" =>
      .about (.reference (program.buffer.hasChild node "mutable_specifier"))
        (tree.childInRole node .value)
  | "parenthesized_expression" =>
      .about .same ((tree.children node).find? fun child => tree.kind child != .punctuation)
  | "type_cast_expression" =>
      match program.buffer.roleText? node .type with
      | some type => .shown type
      | none => .unknown
  | "binary_expression" =>
      if Evidence.isTest ((program.buffer.roleText? node (.field "operator")).getD "") then
        .shown "bool"
      else .about .same (tree.childInRole node (.field "left"))
  | "unary_expression" =>
      let operator := ((tree.children node).head?.map program.text).getD ""
      .about (if operator == "*" then .referent else .same) (tree.children node).getLast?
  | "macro_invocation" =>
      if program.buffer.roleText? node (.field "macro") == some "format" then .shown "String"
      else .unknown
  | _ =>
      .about .same ((tree.parent node).filter fun parent =>
        tree.kind node == .literal && tree.kind parent == .literal)

/-- The child by whose name a node is known. -/
def namingChild? (program : Program) (node : NodeId) : Option NodeId :=
  match program.tree.rawKind node with
  | "field_expression" | "scoped_identifier" => program.tree.childInRole node .member
  | "call_expression" => program.tree.childInRole node .target
  | "generic_function" => program.tree.childInRole node (.field "function")
  | "scoped_type_identifier" => program.tree.childInRole node .name
  | "generic_type" => program.tree.childInRole node .type
  | _ => none

/-- The identifier by which a node is known. -/
def namingNode? (program : Program) (node : NodeId) : Option NodeId :=
  if program.tree.kind node = .identifier then some node
  else
    match program.namingChild? node with
    | some child =>
        if _deeper : node < child ∧ child < program.tree.nodes.size then
          program.namingNode? child
        else none
    | none => none
termination_by program.tree.nodes.size - node
decreasing_by exact Nat.sub_lt_sub_left (Nat.lt_trans _deeper.1 _deeper.2) _deeper.1

/-- The member that an access denotes, given how the type of its receiver is found. -/
def accessedMember (program : Program) (typeOf : NodeId → Search TypeText) (access : NodeId) :
    Search Declaration :=
  match program.tree.childInRole access .receiver, program.tree.childInRole access .member with
  | some receiver, some member => do
      let type ← typeOf receiver
      let preference :=
        if program.tree.role access == some .target then Preference.function else .value
      .ofOption (program.memberNamed (TypeText.base type.text) (program.text member) preference)
  | _, _ => .absent

/-- The declaration that a token denotes, given how types are found. -/
def resolveTokenWith (program : Program) (typeOf : NodeId → Search TypeText) (token : NodeId) :
    Search Declaration :=
  match program.table.namedBy? token with
  | some declaration => .found declaration
  | none =>
      match program.memberAccess? token with
      | some access => program.accessedMember typeOf access
      | none => program.resolveByName token

/-- The declaration that a node denotes, given what is known and how types are found. -/
def denotedWith (program : Program) (bindings : Bindings) (typeOf : NodeId → Search TypeText)
    (node : NodeId) : Search Declaration :=
  match program.namingNode? node with
  | none => .absent
  | some name =>
      match bindings.known? name with
      | some declaration => .found declaration
      | none => program.resolveTokenWith typeOf name

/-- The type of a declaration used as a value, given how the type of its initial value is found. -/
def valueTypeWith (program : Program) (typeOf : NodeId → Search TypeText)
    (declaration : Declaration) : Search TypeText :=
  let symbol := declaration.symbol
  match symbol.kind with
  | .variable | .parameter =>
      match symbol.type with
      | some type => .found type
      | none =>
          match declaration.initializer.filter fun _ => program.isOwn declaration with
          | some initializer => typeOf initializer
          | none => .absent
  | .field | .property | .other _ => .ofOption symbol.type
  | .type _ => .found (.ofText symbol.name)
  | .function => .absent

/-- The type that calling a declaration produces: the result of a function, the type of a structure,
or the enumeration of a variant. -/
def resultType (declaration : Declaration) : Option TypeText :=
  let symbol := declaration.symbol
  match symbol.kind with
  | .function =>
      symbol.returnType.map fun type =>
        match symbol.container with
        | some container => .ofText (Text.replaceWord type.text "Self" container)
        | none => type
  | .type _ => some (.ofText symbol.name)
  | .other "" => symbol.type
  | _ => none

/-- A reference to a type. -/
def referenceTo (isMutable : Bool) (type : TypeText) : TypeText :=
  .ofText ((if isMutable then "&mut " else "&") ++ type.text)

/-- What a type refers to. -/
def referentOf (type : TypeText) : TypeText :=
  let inner := Text.dropLeading (· == '&') type.text.toList
  .ofText (String.ofList ((Text.dropLead? "mut ".toList inner).getD inner))

/-- Inference follows no more than this many expressions in a row. -/
def maxDepth : Nat :=
  16

/-- The type of an expression at a depth, within a number of steps.  The receiver of a member starts
again at depth zero. -/
def inferWithin (program : Program) (bindings : Bindings) : Nat → NodeId → Nat → Search TypeText
  | 0, _, _ => .endless
  | bound + 1, node, depth =>
      if maxDepth < depth then .absent
      else
        match program.evidence node with
        | .known type => .found type
        | .denoted => do
            let declaration ← program.denotedWith bindings
              (fun receiver => program.inferWithin bindings bound receiver 0) node
            program.valueTypeWith
              (fun initializer => program.inferWithin bindings bound initializer (depth + 2))
              declaration
        | .result target => do
            let declaration ← program.denotedWith bindings
              (fun receiver => program.inferWithin bindings bound receiver 0) target
            .ofOption (resultType declaration)
        | .same inner => program.inferWithin bindings bound inner (depth + 1)
        | .reference isMutable inner => do
            let type ← program.inferWithin bindings bound inner (depth + 1)
            return referenceTo isMutable type
        | .referent inner => do
            let type ← program.inferWithin bindings bound inner (depth + 1)
            return referentOf type
        | .unknown => .absent

/-- The number of steps that inference is given: enough to meet every node at every depth. -/
def inferenceSteps (program : Program) : Nat :=
  (maxDepth + 4) * (program.tree.nodes.size + 1)

/-- The type of an expression at a depth. -/
def inferAt (program : Program) (bindings : Bindings) (node : NodeId) (depth : Nat) :
    Search TypeText :=
  program.inferWithin bindings program.inferenceSteps node depth

/-- The type of an expression. -/
def infer (program : Program) (bindings : Bindings) (node : NodeId) : Search TypeText :=
  program.inferAt bindings node 0

/-- The declaration that a token denotes. -/
def resolveToken (program : Program) (bindings : Bindings) (token : NodeId) : Search Declaration :=
  program.resolveTokenWith (program.infer bindings) token

/-- The declaration that a node denotes. -/
def denoted (program : Program) (bindings : Bindings) (node : NodeId) : Search Declaration :=
  program.denotedWith bindings (program.infer bindings) node

/-- The type of a declaration used as a value. -/
def valueType (program : Program) (bindings : Bindings) (declaration : Declaration) :
    Search TypeText :=
  program.valueTypeWith (fun initializer => program.inferAt bindings initializer 1) declaration

end Program

end SourceLens
