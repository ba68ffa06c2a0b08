/-!
# Node kinds and roles

A node of a tree is classified by a coarse kind that does not depend on the language of the source,
and by the role it plays in its parent.
-/

namespace SourceLens

/-- What a declaration introduces. -/
inductive DeclarationKind where
  /-- A variable or a constant. -/
  | binding
  | field
  | property
  | parameter
  | function
  | type
  | enumeration
  | variant
  | submodule
  deriving DecidableEq, Repr

namespace DeclarationKind

/-- Every kind of declaration. -/
def all : List DeclarationKind :=
  [binding, field, property, parameter, function, type, enumeration, variant, submodule]

/-- The name of a kind of declaration. -/
def name : DeclarationKind → String
  | binding => "Variable"
  | field => "Field"
  | property => "Property"
  | parameter => "Parameter"
  | function => "Method"
  | type => "Type"
  | enumeration => "Enum"
  | variant => "EnumMember"
  | submodule => "Module"

end DeclarationKind

/-- The coarse kind of a node. -/
inductive NodeKind where
  | root
  | declaration (kind : DeclarationKind)
  | invocation
  | construction
  /-- An attribute with arguments. -/
  | decoration
  /-- The arguments of one of the three above. -/
  | argumentList
  | memberAccess
  | typeOf
  | literal
  | block
  | identifier
  /-- A comma. -/
  | separator
  | punctuation
  | keyword
  | comment
  | error
  | other
  deriving DecidableEq, Repr, Inhabited

namespace NodeKind

/-- Every kind of node. -/
def all : List NodeKind :=
  [root, invocation, construction, decoration, argumentList, memberAccess, typeOf, literal, block,
    identifier, separator, punctuation, keyword, comment, error, other] ++
    DeclarationKind.all.map declaration

/-- The name of a kind of node. -/
def name : NodeKind → String
  | root => "Root"
  | declaration kind => "Declaration:" ++ kind.name
  | invocation => "Invocation"
  | construction => "ObjectCreation"
  | decoration => "Attribute"
  | argumentList => "ArgumentList"
  | memberAccess => "MemberAccess"
  | typeOf => "TypeOf"
  | literal => "Literal"
  | block => "Block"
  | identifier => "Identifier"
  | separator => "Separator"
  | punctuation => "Punctuation"
  | keyword => "Keyword"
  | comment => "Comment"
  | error => "Error"
  | other => "Other"

/-- The kind of node with a name. -/
def ofName? (name : String) : Option NodeKind :=
  all.find? fun kind => kind.name == name

/-- Whether the node declares something. -/
def isDeclaration : NodeKind → Bool
  | declaration _ => true
  | _ => false

/-- Whether the node owns a list of arguments. -/
def takesArguments (kind : NodeKind) : Bool :=
  kind == invocation || kind == construction || kind == decoration

/-- Whether the node means nothing to the program. -/
def isTrivia (kind : NodeKind) : Bool :=
  kind == comment

/-- Names, literals and reserved words: what a cursor next to it belongs to. -/
def isWord (kind : NodeKind) : Bool :=
  kind == identifier || kind == literal || kind == keyword

/-- Symbols, commas and comments: what stands between the parts of a list. -/
def isFiller (kind : NodeKind) : Bool :=
  kind == punctuation || kind == separator || kind == comment

end NodeKind

/-- The slot that a node fills in its parent. -/
inductive Role where
  | target
  | arguments
  | receiver
  | member
  | name
  | pattern
  | type
  | parameters
  | returnType
  | body
  | value
  /-- Any other slot, by its name in the grammar. -/
  | field (name : String)
  deriving DecidableEq, Repr

namespace Role

/-- The roles with names of their own. -/
def named : List Role :=
  [target, arguments, receiver, member, name, pattern, type, parameters, returnType, body, value]

/-- The name of a role. -/
def render : Role → String
  | target => "Target"
  | arguments => "Arguments"
  | receiver => "Receiver"
  | member => "Member"
  | name => "Name"
  | pattern => "Pattern"
  | type => "Type"
  | parameters => "Parameters"
  | returnType => "ReturnType"
  | body => "Body"
  | value => "Value"
  | field label => "Field:" ++ label

end Role

end SourceLens
