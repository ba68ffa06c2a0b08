import SourceLens.Analysis

/-!
# Diagnostics

Errors of the parser, variables that are never used, and what a library or a program lacks.
-/

namespace SourceLens.Analysis

/-- The number of characters of an error that are shown. -/
def snippetLength : Nat :=
  24

/-- The diagnostic of a token that the parser missed. -/
def missingToken (rawKind : String) (offset : Nat) : Diagnostic :=
  ⟨"RS0002", .error, "Expected `" ++ rawKind ++ "`", .empty offset⟩

/-- The diagnostic of a part that could not be parsed. -/
def unexpectedPart (text : String) (span : Span) : Diagnostic :=
  let snippet := String.ofList ((Text.collapse text.toList).take snippetLength)
  let message :=
    if snippet.isEmpty then "Syntax error" else "Syntax error: unexpected `" ++ snippet ++ "`"
  ⟨"RS0001", .error, message, span⟩

/-- The errors of the parser at a node.  Of nested errors the outermost one counts. -/
def parseErrorsAt (analysis : Analysis) (id : NodeId) : List Diagnostic :=
  let tree := analysis.tree
  let node := tree.node id
  if node.missing then [missingToken node.rawKind node.span.start]
  else if node.kind = .error ∧ ¬ (tree.enclosing id).any (fun outer => tree.kind outer == .error) then
    [unexpectedPart (analysis.program.text id) node.span]
  else []

/-- Whether a declaration is a variable that a statement binds. -/
def isLetVariable (analysis : Analysis) (declaration : Declaration) : Bool :=
  declaration.symbol.kind == .variable &&
    analysis.tree.rawKind declaration.node == "let_declaration"

/-- Whether a declaration is denoted by a token other than the name of a declaration. -/
def isUsed (analysis : Analysis) (declaration : Declaration) : Bool :=
  (analysis.references declaration.id).any fun token =>
    (analysis.program.table.namedBy? token).isNone

/-- The variables that are never used.  A name that starts with an underscore says so itself. -/
def unusedVariables (analysis : Analysis) : List Diagnostic :=
  let unused := analysis.program.table.select fun declaration =>
    analysis.isLetVariable declaration && declaration.name.toList.head? != some '_' &&
      !analysis.isUsed declaration
  unused.map fun declaration =>
    ⟨"RS1001", .warning, "Unused variable `" ++ declaration.name ++ "`", declaration.nameSpan⟩

/-- The lack of an entry point. -/
def missingMain (analysis : Analysis) : List Diagnostic :=
  let hasMain := (analysis.program.table.free "main").any fun declaration =>
    declaration.symbol.isFunction
  if hasMain then []
  else [⟨"RS2001", .error, "`main` function not found in executable", .empty 0⟩]

/-- The lack of documentation of items that everybody may use. -/
def missingDocs (analysis : Analysis) : List Diagnostic :=
  let undocumented := analysis.program.table.select fun declaration =>
    declaration.symbol.access == .everyone && !declaration.implementsTrait &&
      declaration.doc.isNone && !declaration.symbol.isLocal
  undocumented.map fun declaration =>
    ⟨"RS3001", .information, "Missing documentation for public item `" ++ declaration.name ++ "`",
      declaration.nameSpan⟩

/-- The diagnostics of a buffer, in the order of the source. -/
def diagnostics (analysis : Analysis) (isCancelled : Bool) : Outcome (List Diagnostic) := do
  Outcome.unlessCancelled isCancelled
  let parseErrors := analysis.tree.ids.flatMap analysis.parseErrorsAt
  let lacking :=
    match analysis.output with
    | .executable => analysis.missingMain
    | .library => analysis.missingDocs
  return (parseErrors ++ analysis.unusedVariables ++ lacking).mergeSort fun first second =>
    first.span.start ≤ second.span.start

end SourceLens.Analysis
