import SourceLens.Program
import SourceLens.Search

/-!
# Names of types and members

What a name denotes depends on where it stands: as a type, as the last part of a path, as a field in
the construction of a value or in a pattern.  Everything here is decided by names alone; members of
values need types and come later.
-/

namespace SourceLens

/-- Which member is wanted when several have a name. -/
inductive Preference where
  | function
  /-- Anything but a function. -/
  | value
  | any
  deriving DecidableEq, Repr

/-- Whether a symbol is of the wanted sort. -/
def Preference.admits (preference : Preference) (symbol : Symbol) : Bool :=
  match preference with
  | function => symbol.isFunction
  | value => !symbol.isFunction
  | any => true

/-- Whether a symbol is a type or a module. -/
def Symbol.isTypeLike (symbol : Symbol) : Bool :=
  symbol.isType || symbol.kind == .other "mod"

/-- Whether a symbol is a variant of an enumeration. -/
def Symbol.isVariant (symbol : Symbol) : Bool :=
  symbol.kind == .other ""

namespace Program

/-- The first member with a name that is of the wanted sort, else the first with the name. -/
def memberNamed (program : Program) (container name : String) (preference : Preference) :
    Option Declaration :=
  let candidates := (program.members container).filter fun declaration => declaration.name == name
  (candidates.find? fun declaration => preference.admits declaration.symbol).or candidates.head?

/-- The first variant with a name, the buffer's first. -/
def variantNamed (program : Program) (name : String) : Option Declaration :=
  let isWanted := fun (declaration : Declaration) =>
    declaration.symbol.isVariant && declaration.name == name
  (program.table.declarations.find? isWanted).or
    (program.library.table.declarations.find? isWanted)

/-- The first free type or module with a name. -/
def typeNamed (program : Program) (name : String) : Option Declaration :=
  (program.free name).find? fun declaration => declaration.symbol.isTypeLike

/-- The name of the type whose implementation or trait is around an offset. -/
def selfTypeAt (program : Program) (offset : Nat) : Option String := do
  let owner ← program.tree.findAt offset fun node =>
    program.tree.rawKind node == "impl_item" || program.tree.rawKind node == "trait_item"
  let role := if program.tree.rawKind owner == "impl_item" then Role.type else Role.name
  let type ← program.tree.childInRole owner role
  return TypeText.base (program.text type)

/-- The type or module that a name denotes at an offset.  `Self` denotes what the name of the type
around the offset denotes, so the search for it has no end when that name is `Self` again. -/
def resolveTypeWithin (program : Program) (offset : Nat) : Nat → String → Search Declaration
  | 0, _ => .endless
  | bound + 1, name =>
      if name = "Self" then
        match program.selfTypeAt offset with
        | some type => program.resolveTypeWithin offset bound type
        | none => .absent
      else .ofOption (program.typeNamed name)

/-- The type or module that a name denotes at an offset. -/
def resolveType (program : Program) (name : String) (offset : Nat) : Search Declaration :=
  program.resolveTypeWithin offset 2 name

/-- Whether a name other than `Self` denotes something that has members. -/
def isContainer (program : Program) (name : String) : Bool :=
  (program.typeNamed name).isSome || !(program.members name).isEmpty

/-- The container that a name denotes at an offset. -/
def containerNamed (program : Program) (name : String) (offset : Nat) : Option String :=
  if name = "Self" then program.selfTypeAt offset
  else if program.isContainer name then some name
  else none

/-- The node that holds the last name of a path. -/
def pathName? (program : Program) (path : NodeId) : Option NodeId :=
  match program.tree.rawKind path with
  | "identifier" | "type_identifier" | "primitive_type" => some path
  | "scoped_identifier" => program.tree.childInRole path .member
  | "scoped_type_identifier" => program.tree.childInRole path .name
  | _ => none

/-- The path below type arguments. -/
def bareGeneric? (program : Program) (path : NodeId) : Option NodeId :=
  if program.tree.rawKind path == "generic_type" then program.tree.childInRole path .type else none

/-- The container that a path denotes, if it is a type or a module. -/
def containerOfPath (program : Program) (path : NodeId) : Option String :=
  match program.bareGeneric? path with
  | some inner =>
      if _deeper : path < inner ∧ inner < program.tree.nodes.size then
        program.containerOfPath inner
      else none
  | none => do
      let name ← program.pathName? path
      program.containerNamed (program.text name) (program.tree.span path).start
termination_by program.tree.nodes.size - path
decreasing_by exact Nat.sub_lt_sub_left (Nat.lt_trans _deeper.1 _deeper.2) _deeper.1

/-- The name of the type that a construction or a pattern around a token spells out. -/
def typeAround? (program : Program) (token : NodeId) (rawKind : String) (role : Role) :
    Option String := do
  let owner ← program.tree.findAncestor token fun node => program.tree.rawKind node == rawKind
  let name ← program.buffer.roleText? owner role
  if name = "Self" then program.selfTypeAt (program.tree.span owner).start
  else some (TypeText.base name)

/-- The field that a token names in the construction of a value. -/
def constructedField? (program : Program) (token : NodeId) : Option Declaration := do
  let type ← program.typeAround? token "struct_expression" .name
  program.memberNamed type (program.text token) .value

/-- The field that a token names in a pattern. -/
def matchedField? (program : Program) (token : NodeId) : Option Declaration := do
  let type ← program.typeAround? token "struct_pattern" .type
  program.memberNamed type (program.text token) .value

/-- The name of the grammar's kind of the node around a node. -/
def parentKind (program : Program) (node : NodeId) : String :=
  ((program.tree.parent node).map program.tree.rawKind).getD ""

/-- What a token denotes that names a type. -/
def resolveTypeToken (program : Program) (token : NodeId) : Search Declaration :=
  let name := program.text token
  let qualified : Option Declaration :=
    if program.parentKind token == "scoped_type_identifier" &&
        program.tree.role token == some .name then do
      let parent ← program.tree.parent token
      let path ← program.tree.childInRole parent (.field "path")
      let container ← program.containerOfPath path
      program.memberNamed container name .any
    else none
  (Search.ofOption qualified).orElse (program.resolveType name (program.tree.span token).start)

/-- What a part of a path denotes: its last part is a member of what comes before, any other part is a
type, a module or a free item. -/
def resolvePathPart (program : Program) (token path : NodeId) : Search Declaration :=
  let name := program.text token
  let offset := (program.tree.span token).start
  if program.tree.role token == some .member then
    match program.tree.childInRole path .receiver with
    | some qualifier =>
        .ofOption ((program.containerOfPath qualifier).bind fun container =>
          program.memberNamed container name .any)
    | none => .ofOption (program.resolveName name offset)
  else (program.resolveType name offset).orElse (.ofOption (program.free name).head?)

/-- What an identifier denotes that is no declaration's name. -/
def resolveIdentifier (program : Program) (token : NodeId) : Search Declaration :=
  let name := program.text token
  let offset := (program.tree.span token).start
  match program.parentKind token, program.tree.parent token with
  | "scoped_identifier", some path => program.resolvePathPart token path
  | "macro_invocation", _ => .absent
  | _, _ =>
      if program.tree.role token == some .type then
        (program.resolveType name offset).orElse (.ofOption (program.variantNamed name))
      else .ofOption ((program.resolveName name offset).or (program.variantNamed name))

/-- What a token denotes that is neither a declaration's name nor the member of a value. -/
def resolveByName (program : Program) (token : NodeId) : Search Declaration :=
  let name := program.text token
  let offset := (program.tree.span token).start
  match program.tree.rawKind token with
  | "self" => .ofOption (program.resolveName "self" offset)
  | "primitive_type" => program.resolveType name offset
  | "type_identifier" => program.resolveTypeToken token
  | "field_identifier" =>
      match program.parentKind token with
      | "field_initializer" => .ofOption (program.constructedField? token)
      | "field_pattern" => .ofOption (program.matchedField? token)
      | _ => .absent
  | "shorthand_field_identifier" => .ofOption (program.resolveName name offset)
  | "identifier" => program.resolveIdentifier token
  | _ => .absent

/-- The access to a member of a value that a token belongs to. -/
def memberAccess? (program : Program) (token : NodeId) : Option NodeId :=
  if program.tree.rawKind token == "field_identifier" &&
      program.parentKind token == "field_expression" then
    program.tree.parent token
  else none

end Program

end SourceLens
