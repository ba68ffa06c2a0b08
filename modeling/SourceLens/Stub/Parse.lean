import SourceLens.Stub.Lexeme
import SourceLens.Tree.Parsed

/-!
# Parsing stubs

A stub consists of types without bodies, enumerations, signatures of functions and blocks of
signatures that belong to a type.  Types inside a signature are kept whole, since they are only read
as text.
-/

namespace SourceLens.Stub

/-- Reads from the front of a list of lexemes. -/
abbrev Reader := StateT (List Lexeme) Option

/-- The text of the next lexeme, empty at the end. -/
def nextText : Reader String := do
  return ((← get).head?.map Lexeme.text).getD ""

/-- Whether the next lexeme is a comment. -/
def nextIsComment : Reader Bool := do
  return (← get).head?.any fun lexeme => lexeme.kind == .comment

/-- Reads the next lexeme. -/
def take : Reader Lexeme := do
  match ← get with
  | lexeme :: rest =>
      set rest
      return lexeme
  | [] => failure

/-- A node without children. -/
def leaf (kind : String) (named : Bool) (field : Option String) (span : Span) : ParseTree :=
  .node ⟨kind, span, named, false, field⟩ []

/-- A node around some others. -/
def branch (kind : String) (field : Option String) (children : List ParseTree) : ParseTree :=
  let start := (children.head?.map fun child => child.head.span.start).getD 0
  let stop := (children.getLast?.map fun child => child.head.span.stop).getD 0
  .named kind start stop field children

/-- Reads a lexeme as a node that the grammar names. -/
def named (kind : String) (field : Option String) : Reader ParseTree := do
  return leaf kind true field (← take).span

/-- Reads a lexeme with a given text. -/
def exactly (text : String) : Reader ParseTree := do
  let lexeme ← take
  if lexeme.text == text then return leaf text false none lexeme.span else failure

/-- Reads a lexeme with a given text, if it comes next. -/
def optionally (text : String) : Reader (List ParseTree) := do
  if (← nextText) == text then return [← exactly text] else return []

/-- The lexemes of a type: up to a mark that ends it outside of angle brackets. -/
def typeLexemes : Nat → List Lexeme → List Lexeme × List Lexeme
  | _, [] => ([], [])
  | depth, lexeme :: rest =>
      if depth = 0 && [",", ")", ";", "\x7b"].contains lexeme.text then ([], lexeme :: rest)
      else
        let inner :=
          if lexeme.text == "<" then depth + 1 else if lexeme.text == ">" then depth - 1 else depth
        let (type, after) := typeLexemes inner rest
        (lexeme :: type, after)

/-- Reads a type. -/
def type (field : Option String) : Reader ParseTree := do
  let (lexemes, rest) := typeLexemes 0 (← get)
  set rest
  match lexemes.head?, lexemes.getLast? with
  | some first, some last =>
      return leaf "type_identifier" true field ⟨first.span.start, last.span.stop⟩
  | _, _ => failure

/-- Reads elements with commas between or after them, up to a closing mark.  The first argument bounds
their number. -/
def separated (element : Reader ParseTree) (closer : String) : Nat → Reader (List ParseTree)
  | 0 => failure
  | bound + 1 => do
      if (← nextText) == closer then return [← exactly closer]
      else
        let comments ← if ← nextIsComment then pure [← named "line_comment" none] else pure []
        let elements ← if comments.isEmpty then pure [← element] else pure []
        let comma ← optionally ","
        return comments ++ elements ++ comma ++ (← separated element closer bound)

/-- Reads a bracketed list of elements. -/
def bracketed (kind field opener closer : String) (element : Reader ParseTree) :
    Reader ParseTree := do
  let opening ← exactly opener
  let rest ← separated element closer (← get).length
  return branch kind (some field) (opening :: rest)

/-- Reads type parameters, if there are any. -/
def typeParameters : Reader (List ParseTree) := do
  if (← nextText) == "<" then
    return [← bracketed "type_parameters" "type_parameters" "<" ">" (named "type_parameter" none)]
  else return []

/-- Reads the receiver of a method. -/
def receiver : Reader ParseTree := do
  let reference ← optionally "&"
  let specifier ← if (← nextText) == "mut" then pure [← named "mutable_specifier" none] else pure []
  return branch "self_parameter" none (reference ++ specifier ++ [← named "self" none])

/-- Reads a parameter. -/
def parameter : Reader ParseTree := do
  if ["&", "mut", "self"].contains (← nextText) then receiver
  else
    let pattern ← named "identifier" (some "pattern")
    let colon ← exactly ":"
    return branch "parameter" none [pattern, colon, ← type (some "type")]

/-- Reads the result type of a function, if there is one. -/
def returnType : Reader (List ParseTree) := do
  if (← nextText) == "->" then return [← exactly "->", ← type (some "return_type")]
  else return []

/-- Reads a variant of an enumeration. -/
def variant : Reader ParseTree := do
  let name ← named "identifier" (some "name")
  let fields ←
    if (← nextText) == "(" then
      pure [← bracketed "ordered_field_declaration_list" "body" "(" ")" (type (some "type"))]
    else pure []
  return branch "enum_variant" none (name :: fields)

/-- Reads a declaration after its visibility. -/
def declaration (visibility : List ParseTree) : Reader ParseTree := do
  let keyword ← take
  let head := visibility ++ [leaf keyword.text false none keyword.span]
  if keyword.text == "fn" then
    let name ← named "identifier" (some "name")
    let generics ← typeParameters
    let parameters ← bracketed "parameters" "parameters" "(" ")" parameter
    let result ← returnType
    return branch "function_signature_item" none
      (head ++ [name] ++ generics ++ [parameters] ++ result ++ [← exactly ";"])
  else
    let name ← named "type_identifier" (some "name")
    let generics ← typeParameters
    if keyword.text == "struct" then
      return branch "struct_item" none (head ++ [name] ++ generics ++ [← exactly ";"])
    else if keyword.text == "enum" then
      let body ← bracketed "enum_variant_list" "body" "\x7b" "\x7d" variant
      return branch "enum_item" none (head ++ [name] ++ generics ++ [body])
    else failure

/-- Reads a declaration with its visibility. -/
def visibleDeclaration : Reader ParseTree := do
  if (← nextText) == "pub" then declaration [← named "visibility_modifier" none]
  else declaration []

/-- Reads a block of signatures that belong to a type. -/
def implementation : Reader ParseTree := do
  let keyword ← exactly "impl"
  let generics ← typeParameters
  let owner ← type (some "type")
  let body ← bracketed "declaration_list" "body" "\x7b" "\x7d" visibleDeclaration
  return branch "impl_item" none ([keyword] ++ generics ++ [owner, body])

/-- Reads an item or a comment. -/
def item : Reader ParseTree := do
  if ← nextIsComment then named "line_comment" none
  else if (← nextText) == "impl" then implementation
  else visibleDeclaration

/-- Reads items up to the end.  The first argument bounds their number. -/
def items : Nat → Reader (List ParseTree)
  | 0 => return []
  | bound + 1 => do
      if (← get).isEmpty then return [] else return (← item) :: (← items bound)

/-- The concrete tree of a stub. -/
def parse? (stub : String) : Option ParseTree := do
  let lexemes := lexemes stub
  let (children, _) ← (items lexemes.length).run lexemes
  return .node ⟨"source_file", ⟨0, stub.utf8ByteSize⟩, true, false, none⟩ children

end SourceLens.Stub
