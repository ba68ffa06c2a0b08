import SourceLens.Tree

/-!
# Parsed sources

The parser of the analysed language is an outside party: it delivers a concrete tree whose nodes
carry the names of its grammar.  `ParseTree.lower` classifies each node and gives it a role, and
keeps the shape of the tree.
-/

namespace SourceLens

/-- A node of a concrete tree, without its children. -/
structure ParseNode where
  /-- The kind's name in the grammar. -/
  kind : String
  span : Span
  /-- Whether the grammar names it, rather than spelling it out. -/
  named : Bool
  /-- Whether the parser inserted it to recover from an error. -/
  missing : Bool
  /-- The field it fills in its parent. -/
  field : Option String
  deriving DecidableEq, Repr

/-- A concrete tree. -/
inductive ParseTree where
  /-- A node and the trees directly inside it, in order. -/
  | node (head : ParseNode) (children : List ParseTree)

namespace ParseTree

/-- The root of a concrete tree. -/
def head : ParseTree → ParseNode
  | node head _ => head

/-- The trees directly inside the root. -/
def children : ParseTree → List ParseTree
  | node _ children => children

/-- A node that the grammar names. -/
def named (kind : String) (start stop : Nat) (field : Option String) (children : List ParseTree) :
    ParseTree :=
  .node ⟨kind, ⟨start, stop⟩, true, false, field⟩ children

/-- A token that the grammar spells out. -/
def spelled (text : String) (start stop : Nat) (field : Option String) : ParseTree :=
  .node ⟨text, ⟨start, stop⟩, false, false, field⟩ []

/-- The tree of an empty source. -/
def blank : ParseTree :=
  .node ⟨"source_file", .empty 0, true, false, none⟩ []

/-- The role of a node, given the kind of its parent and the field that it fills there. -/
def roleOf (parent field : String) : Role :=
  match parent, field with
  | "call_expression", "function" => .target
  | _, "arguments" => .arguments
  | "field_expression", "value" => .receiver
  | "scoped_identifier", "path" => .receiver
  | "field_expression", "field" => .member
  | "scoped_identifier", "name" => .member
  | _, "name" => .name
  | _, "pattern" => .pattern
  | _, "type" => .type
  | _, "parameters" => .parameters
  | _, "return_type" => .returnType
  | _, "body" => .body
  | _, "value" => .value
  | _, other => .field other

/-- The comments of the grammar. -/
def isComment (kind : String) : Bool :=
  kind == "line_comment" || kind == "block_comment"

/-- The literals of the grammar that have parts. -/
def isCompositeLiteral (kind : String) : Bool :=
  ["string_literal", "raw_string_literal", "char_literal", "boolean_literal"].contains kind

/-- The kind of a node that the grammar does not list. -/
def unlistedKind (node : ParseNode) : NodeKind :=
  if node.named then .other
  else if node.kind.toList.all fun char => char.isAlpha || char == '_' then .keyword
  else .punctuation

/-- The kind of a node by its name in the grammar, given the kind of its parent. -/
def kindByName (node : ParseNode) (parent : String) : NodeKind :=
  match node.kind with
  | "source_file" => .root
  | "function_item" | "function_signature_item" => .declaration .function
  | "struct_item" | "union_item" | "trait_item" | "type_item" => .declaration .type
  | "enum_item" => .declaration .enumeration
  | "enum_variant" => .declaration .variant
  | "field_declaration" => .declaration .field
  | "let_declaration" | "const_item" | "static_item" => .declaration .binding
  | "parameter" | "self_parameter" => .declaration .parameter
  | "mod_item" => .declaration .submodule
  | "call_expression" => .invocation
  | "attribute" => .decoration
  | "arguments" => .argumentList
  | "token_tree" => if parent == "attribute" then .argumentList else unlistedKind node
  | "field_expression" | "scoped_identifier" => .memberAccess
  | "identifier" | "field_identifier" | "type_identifier" | "primitive_type"
  | "shorthand_field_identifier" | "self" | "super" | "crate" => .identifier
  | "integer_literal" | "float_literal" | "string_literal" | "raw_string_literal"
  | "char_literal" | "boolean_literal" => .literal
  | "block" | "declaration_list" | "field_declaration_list" | "enum_variant_list"
  | "match_block" => .block
  | "line_comment" | "block_comment" => .comment
  | "ERROR" => .error
  | "," => .separator
  | _ => unlistedKind node

/-- The kind of a node, given the kinds of the nodes around it from the inside out.  The parts of a
comment are comments and the parts of a literal are literals. -/
def classify (node : ParseNode) (around : List String) : NodeKind :=
  let parent := around.head?.getD ""
  if (around.take 2).any isComment then .comment
  else if isCompositeLiteral parent then .literal
  else kindByName node parent

/-- What a node looks like in the tree, given the kinds of the nodes around it. -/
def lowerHead (node : ParseNode) (around : List String) : NodeHead where
  kind := classify node around
  rawKind := node.kind
  span := node.span
  role := node.field.map (roleOf (around.head?.getD ""))
  missing := node.missing

mutual

/-- The events of a concrete tree inside nodes of the given kinds. -/
def events (around : List String) : ParseTree → List Tree.Event
  | node head children =>
      .enter (lowerHead head around) :: (forestEvents (head.kind :: around) children ++ [.exit])

/-- The events of a list of concrete trees. -/
def forestEvents (around : List String) : List ParseTree → List Tree.Event
  | [] => []
  | tree :: trees => events around tree ++ forestEvents around trees

end

/-- The tree of a concrete tree. -/
def lower (tree : ParseTree) : Tree :=
  Tree.ofEvents (tree.events [])

/-- A node of a concrete tree with the number of nodes around it. -/
structure Row where
  /-- The number of nodes around it. -/
  depth : Nat
  node : ParseNode

mutual

/-- The tree that a list of rows in pre-order starts with, and the rows after it.  The first
argument bounds the number of rows. -/
def ofRows? : Nat → List Row → Option (ParseTree × List Row)
  | 0, _ => none
  | _ + 1, [] => none
  | bound + 1, row :: rows =>
      let (children, rest) := forestOfRows bound (row.depth + 1) rows
      some (.node row.node children, rest)

/-- The trees of a depth that a list of rows starts with, and the rows after them. -/
def forestOfRows : Nat → Nat → List Row → List ParseTree × List Row
  | 0, _, rows => ([], rows)
  | _ + 1, _, [] => ([], [])
  | bound + 1, depth, row :: rows =>
      if row.depth < depth then ([], row :: rows)
      else
        match ofRows? bound (row :: rows) with
        | none => ([], row :: rows)
        | some (tree, rest) =>
            let (trees, rest) := forestOfRows bound depth rest
            (tree :: trees, rest)

end

/-- The concrete tree that a list of rows in pre-order describes. -/
def ofPreorder? (rows : List Row) : Option ParseTree :=
  (ofRows? (2 * rows.length + 2) rows).map Prod.fst

end ParseTree

end SourceLens
