import SourceLens.Declaration.Pattern
import SourceLens.Declaration.Table
import SourceLens.Doc.Comment

/-!
# Collecting declarations

`Document.declarations` lists what a document declares, node by node: items with the type or module
around them, fields, variants, and the variables of patterns with their scopes.
-/

namespace SourceLens

/-- What is around an item. -/
inductive Surroundings where
  | topLevel
  | submodule (name : String)
  /-- A block that implements a type, for a trait or on its own. -/
  | implementation (type : String) (isOfTrait : Bool)
  | trait (name : String)
  | body

/-- Where an item lands, what it belongs to and who may use it there. -/
structure Placement where
  place : Place
  container : Option String
  access : Access
  implementsTrait : Bool := false

namespace Document

/-- What a node makes of the items inside it. -/
def surroundingsOf? (document : Document) (node : NodeId) : Option Surroundings :=
  match document.tree.rawKind node with
  | "impl_item" =>
      some (.implementation (((document.roleText? node .type).map TypeText.base).getD "")
        (document.tree.childInRole node (.field "trait")).isSome)
  | "trait_item" => some (.trait ((document.roleText? node .name).getD ""))
  | "mod_item" => some (.submodule ((document.roleText? node .name).getD ""))
  | "function_item" | "closure_expression" => some .body
  | _ => none

/-- What is around a node. -/
def surroundings (document : Document) (node : NodeId) : Surroundings :=
  ((document.tree.enclosing node).findSome? document.surroundingsOf?).getD .topLevel

/-- The innermost block around a node. -/
def enclosingBlock? (document : Document) (node : NodeId) : Option Span :=
  ((document.tree.enclosing node).find? fun outer =>
    document.tree.rawKind outer == "block").map document.tree.span

/-- The path to which a visibility is restricted. -/
def restriction (visibility : List Char) : List Char :=
  let inner := Text.trim (Text.dropLeads "pub".toList visibility.length visibility)
  Text.trim (Text.dropTrailing (· == ')') (Text.dropLeading (· == '(') inner))

/-- The access that a visibility grants. -/
def accessOf (visibility : String) : Access :=
  match Text.mapChars Text.collapse visibility with
  | "pub" => .everyone
  | "pub(crate)" => .crate
  | "pub(self)" => .hidden
  | other => .restricted (Text.mapChars restriction other)

/-- The access that an item declares. -/
def access (document : Document) (node : NodeId) : Access :=
  match document.tree.childOfRawKind node "visibility_modifier" with
  | some visibility => accessOf (document.text visibility)
  | none => .hidden

/-- Whether a node may stand between an item and its documentation. -/
def isAboveItem (document : Document) (node : NodeId) : Bool :=
  ["line_comment", "block_comment", "attribute_item"].contains (document.tree.rawKind node)

/-- The body of the comments right above a node, attributes left aside. -/
def docAbove? (document : Document) (node : NodeId) : Option String := do
  let parent ← document.tree.parent node
  let siblings := document.tree.children parent
  let earlier := siblings.takeWhile (· != node)
  let above := (earlier.reverse.takeWhile document.isAboveItem).reverse
  let comments := above.filter fun sibling => document.tree.rawKind sibling != "attribute_item"
  Doc.ofComments? (comments.map document.text)

/-- The type parameters that an item declares, as written. -/
def typeParameters (document : Document) (node : NodeId) : List String :=
  match document.tree.childInRole node (.field "type_parameters") with
  | some list =>
      ((document.tree.children list).filter fun child =>
        !(document.tree.kind child).isFiller).map document.text
  | none => []

/-- Where a function or a constant lands. -/
def itemPlacement (document : Document) (node : NodeId) : Placement :=
  match document.surroundings node with
  | .topLevel => ⟨.free, none, document.access node, false⟩
  | .submodule name => ⟨.member name, some name, document.access node, false⟩
  | .implementation type isOfTrait =>
      ⟨.member type, some type, if isOfTrait then .everyone else document.access node, isOfTrait⟩
  | .trait name => ⟨.member name, some name, .everyone, false⟩
  | .body => ⟨.lexical (document.enclosingBlock? node), none, .hidden, false⟩

/-- Where a type lands. -/
def typePlacement (document : Document) (node : NodeId) : Placement :=
  match document.surroundings node with
  | .submodule name => ⟨.member name, some name, document.access node, false⟩
  | .implementation type _ => ⟨.member type, some type, document.access node, false⟩
  | _ => ⟨.free, none, document.access node, false⟩

/-- Where a module lands. -/
def modulePlacement (document : Document) (node : NodeId) : Placement :=
  match document.surroundings node with
  | .submodule name => ⟨.member name, some name, document.access node, false⟩
  | _ => ⟨.free, none, document.access node, false⟩

/-- The declaration of an item with a name, a documentation comment above it and a place.  What it
belongs to is for its symbol to say. -/
def item (document : Document) (node nameNode : NodeId) (place : Place) (symbol : Symbol) :
    Declaration where
  symbol :=
    { symbol with
      name := document.text nameNode
      locations := [⟨document.id, document.tree.span nameNode⟩] }
  place := place
  node := node
  nameToken := document.nameToken? nameNode
  doc := document.docAbove? node

/-- The parameters of a list, without the receiver. -/
def parametersOf (document : Document) (list : List NodeId) : List Parameter :=
  (list.filter fun child => document.tree.rawKind child == "parameter").map fun child =>
    ⟨(document.roleText? child .pattern).getD "", document.roleType? child .type⟩

/-- The receiver of a list of parameters, as written. -/
def receiverOf? (document : Document) (list : List NodeId) : Option String :=
  (list.reverse.find? fun child => document.tree.rawKind child == "self_parameter").map fun child =>
    Text.mapChars Text.collapse (document.text child)

/-- The modifiers of a function. -/
def functionModifiers (document : Document) (node : NodeId) (hasReceiver isInner : Bool) :
    Modifiers :=
  let words :=
    match document.tree.childOfRawKind node "function_modifiers" with
    | some modifiers => Text.words (document.text modifiers).toList
    | none => []
  { isStatic := !hasReceiver
    isConst := words.contains "const".toList
    isAsync := words.contains "async".toList
    isUnchecked := words.contains "unsafe".toList
    isLocalFunction := isInner }

/-- The function that an item declares. -/
def functions (document : Document) (node : NodeId) : List Declaration :=
  match document.tree.childInRole node .name with
  | none => []
  | some nameNode =>
      let placement := document.itemPlacement node
      let list := ((document.tree.childInRole node .parameters).map document.tree.children).getD []
      let receiver := document.receiverOf? list
      let declaration := document.item node nameNode placement.place
        { kind := .function
          access := placement.access
          container := placement.container
          modifiers :=
            document.functionModifiers node receiver.isSome placement.place.isLexical
          typeParameters := document.typeParameters node
          receiver := receiver
          parameters := document.parametersOf list
          returnType := document.roleType? node .returnType }
      [{ declaration with implementsTrait := placement.implementsTrait }]

/-- A positional field of a type. -/
def positionalField (document : Document) (body : NodeId) (owner : String) (index : Nat)
    (type : NodeId) : Declaration where
  symbol :=
    { name := toString index
      kind := .field
      access := .everyone
      type := some (TypeText.ofText (document.text type))
      container := some owner
      locations := [⟨document.id, document.tree.span type⟩] }
  place := .member owner
  node := body
  nameToken := none

/-- The positional fields that a type declares. -/
def positionalFields (document : Document) (node : NodeId) (owner : String) : List Declaration :=
  match document.tree.childInRole node .body with
  | none => []
  | some body =>
      if document.tree.rawKind body == "ordered_field_declaration_list" then
        ((document.tree.children body).filter fun child =>
          document.tree.role child == some .type).mapIdx (document.positionalField body owner)
      else []

/-- The type that an item declares, with its positional fields. -/
def types (document : Document) (node : NodeId) (kind : TypeKind) : List Declaration :=
  match document.tree.childInRole node .name with
  | none => []
  | some nameNode =>
      let placement := document.typePlacement node
      document.item node nameNode placement.place
        { kind := .type kind
          access := placement.access
          container := placement.container
          type := if kind = .alias then document.roleType? node .type else none
          typeParameters := document.typeParameters node } ::
      document.positionalFields node (document.text nameNode)

/-- The name of the innermost item of some kinds around a node. -/
def ownerName? (document : Document) (node : NodeId) (rawKinds : List String) : Option String := do
  let owner ← (document.tree.enclosing node).find? fun outer =>
    rawKinds.contains (document.tree.rawKind outer)
  document.roleText? owner .name

/-- The field that a node declares. -/
def fields (document : Document) (node : NodeId) : List Declaration :=
  match document.tree.childInRole node .name,
      document.ownerName? node ["struct_item", "union_item"] with
  | some nameNode, some owner =>
      [document.item node nameNode (.member owner)
        { kind := .field
          access := document.access node
          container := some owner
          type := document.roleType? node .type }]
  | _, _ => []

/-- The variant that a node declares. -/
def variants (document : Document) (node : NodeId) : List Declaration :=
  match document.tree.childInRole node .name, document.ownerName? node ["enum_item"] with
  | some nameNode, some owner =>
      [document.item node nameNode (.member owner)
        { kind := .other ""
          container := some owner
          type := some (TypeText.ofText owner) }]
  | _, _ => []

/-- The constant that an item declares. -/
def constants (document : Document) (node : NodeId) (keyword : String) : List Declaration :=
  match document.tree.childInRole node .name with
  | none => []
  | some nameNode =>
      let placement := document.itemPlacement node
      let declaration := document.item node nameNode placement.place
        { kind := .other keyword
          access := placement.access
          container := placement.container
          modifiers :=
            { isStatic := true
              isConst := keyword == "const"
              isReadonly := !document.hasChild node "mutable_specifier" }
          type := document.roleType? node .type }
      [{ declaration with implementsTrait := placement.implementsTrait }]

/-- The module that an item declares. -/
def modules (document : Document) (node : NodeId) : List Declaration :=
  match document.tree.childInRole node .name with
  | none => []
  | some nameNode =>
      let placement := document.modulePlacement node
      [document.item node nameNode placement.place
        { kind := .other "mod"
          access := placement.access
          container := placement.container }]

/-- The variables of the pattern of a node. -/
def variablesOf (document : Document) (node : NodeId) (use : PatternUse) : List Declaration :=
  match document.tree.childInRole node .pattern with
  | some pattern => document.patternVariables use pattern
  | none => []

/-- The variables of a statement that binds a pattern: visible from its end to the end of the block
around it. -/
def letVariables (document : Document) (node : NodeId) : List Declaration :=
  let stop := (document.tree.span node).stop
  document.variablesOf node
    { node := node
      scope := (document.enclosingBlock? node).map fun block => ⟨min stop block.stop, block.stop⟩
      type := document.roleType? node .type
      initializer := document.tree.childInRole node .value
      kind := .variable }

/-- The scope of a parameter: the function or closure that owns the list. -/
def parameterScope? (document : Document) (node : NodeId) : Option Span := do
  let list ← document.tree.parent node
  let owner ← document.tree.parent list
  return document.tree.span owner

/-- The variables of a parameter. -/
def parameters (document : Document) (node : NodeId) : List Declaration :=
  document.variablesOf node
    { node := node
      scope := document.parameterScope? node
      type := document.roleType? node .type
      kind := .parameter }

/-- The type whose methods a receiver belongs to. -/
def receiverOwner? (document : Document) (node : NodeId) : Option String :=
  let function := document.tree.findAncestor node fun outer =>
    document.tree.rawKind outer == "function_item"
  match document.surroundings (function.getD node) with
  | .implementation type _ => some type
  | .trait name => some name
  | _ => none

/-- The type of a receiver: the owner behind what is written before `self`. -/
def receiverType (receiver owner : String) : TypeText :=
  let lead := (Text.dropSuffix? "self".toList receiver.toList).getD []
  .ofText (String.ofList (Text.dropLeads "mut ".toList lead.length lead) ++ owner)

/-- The receiver that a node declares. -/
def receivers (document : Document) (node : NodeId) : List Declaration :=
  match document.tree.childOfRawKind node "self" with
  | none => []
  | some token =>
      let receiver := Text.mapChars Text.collapse (document.text node)
      [{ symbol :=
          { name := "self"
            kind := .parameter
            modifiers :=
              { isReadonly := !"mut ".toList.isPrefixOf receiver.toList }
            type := (document.receiverOwner? node).map (receiverType receiver)
            locations := [⟨document.id, document.tree.span token⟩] }
         place := .lexical (document.parameterScope? node)
         node := node
         nameToken := document.nameToken? token }]

/-- The parameters of a closure that have no type. -/
def closureParameters (document : Document) (node : NodeId) : List Declaration :=
  match document.tree.childInRole node .parameters with
  | none => []
  | some list =>
      let bare := (document.tree.children list).filter fun child =>
        document.tree.rawKind child != "parameter" && document.tree.kind child != .punctuation
      bare.flatMap (document.patternVariables
        { node := list, scope := some (document.tree.span node), kind := .parameter })

/-- The variables of a loop over a sequence: visible in its body. -/
def loopVariables (document : Document) (node : NodeId) : List Declaration :=
  match document.tree.childInRole node .body with
  | none => []
  | some body =>
      document.variablesOf node
        { node := node, scope := some (document.tree.span body), kind := .variable }

/-- The variables of a match arm: visible in the whole arm. -/
def armVariables (document : Document) (node : NodeId) : List Declaration :=
  document.variablesOf node
    { node := node, scope := some (document.tree.span node), kind := .variable }

/-- The variables of a condition that binds a pattern: visible from its end to the end of the branch
or loop that it guards. -/
def conditionVariables (document : Document) (node : NodeId) : List Declaration :=
  let guarded := (document.tree.enclosing node).find? fun outer =>
    document.tree.rawKind outer == "if_expression" ||
      document.tree.rawKind outer == "while_expression"
  document.variablesOf node
    { node := node
      scope := guarded.map fun outer =>
        ⟨(document.tree.span node).stop, (document.tree.span outer).stop⟩
      kind := .variable }

/-- What a node declares. -/
def declarationsAt (document : Document) (node : NodeId) : List Declaration :=
  match document.tree.rawKind node with
  | "function_item" | "function_signature_item" => document.functions node
  | "struct_item" => document.types node .struct
  | "union_item" => document.types node .union
  | "enum_item" => document.types node .enumeration
  | "trait_item" => document.types node .trait
  | "type_item" => document.types node .alias
  | "field_declaration" => document.fields node
  | "enum_variant" => document.variants node
  | "const_item" => document.constants node "const"
  | "static_item" => document.constants node "static"
  | "mod_item" => document.modules node
  | "let_declaration" => document.letVariables node
  | "parameter" => document.parameters node
  | "self_parameter" => document.receivers node
  | "closure_expression" => document.closureParameters node
  | "for_expression" => document.loopVariables node
  | "match_arm" => document.armVariables node
  | "let_condition" => document.conditionVariables node
  | _ => []

/-- What a document declares, in the order of its nodes. -/
def declarations (document : Document) : List Declaration :=
  document.tree.ids.flatMap document.declarationsAt

end Document

end SourceLens
