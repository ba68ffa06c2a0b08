import SourceLens.Analysis.Semantics
import SourceLens.Prelude
import SourceLens.Snapshot
import SourceLens.Tree.Parsed
import SourceLens.Workspace

/-!
# Contexts

A context holds the references that a set of names denotes, ready for compiling buffers against them.
A reference that cannot be read is left out and reported.
-/

namespace SourceLens

/-- How references are found and buffers are laid out. -/
structure EngineOptions where
  /-- The directories in which references are looked for. -/
  searchPaths : List String := []
  /-- Whether the prelude is part of every context. -/
  bundledPrelude : Bool := true
  indentWidth : Nat := 4
  deriving DecidableEq, Repr

/-- Why a reference could not be loaded. -/
inductive LoadFailure where
  /-- It is in none of a number of directories. -/
  | notFound (searched : Nat)
  | unreadable
  deriving DecidableEq, Repr

/-- The reason for leaving out a reference, unless it is for the file system to give. -/
def LoadFailure.reason? : LoadFailure → Option String
  | .notFound searched => some ("not found in " ++ toString searched ++ " reference path(s)")
  | .unreadable => none

/-- References that have been loaded. -/
structure Context where
  library : Library
  indentWidth : Nat

/-- A context with the references that were left out. -/
structure ContextBuild (κ : Type) where
  context : κ
  /-- The names that were left out, and why. -/
  failed : List (String × LoadFailure)

/-- What contexts are made from: the files, the parser and the options. -/
structure Toolchain where
  /-- The files that references are read from. -/
  workspace : Workspace
  parse : String → ParseTree
  options : EngineOptions

namespace Toolchain

/-- Whether the name of a reference is a path. -/
def isPath (name : String) : Bool :=
  ".rs".toList.isSuffixOf name.toList || name.toList.any fun char => char == '/' || char == '\\'

/-- The path of the file that a name denotes: the name itself if it is a path, else the first file of
that name in the search paths. -/
def locate (toolchain : Toolchain) (name : String) : Except LoadFailure String :=
  if isPath name then .ok name
  else
    let paths := toolchain.options.searchPaths
    match (paths.map fun path => Workspace.join path (name ++ ".rs")).find?
        toolchain.workspace.isFile with
    | some path => .ok path
    | none => .error (.notFound paths.length)

/-- The text of a reference. -/
def readReference (toolchain : Toolchain) (name : String) : Except LoadFailure String := do
  let path ← toolchain.locate name
  match toolchain.workspace.readText? path with
  | some text => .ok text
  | none => .error .unreadable

/-- The build with one more reference. -/
def load (toolchain : Toolchain) (build : ContextBuild Library) (name : String) :
    ContextBuild Library :=
  match toolchain.readReference name with
  | .ok text => { build with context := build.context.add name text (toolchain.parse text).lower }
  | .error failure => { build with failed := build.failed ++ [(name, failure)] }

/-- The build without references, but with the prelude if it is wanted. -/
def bare (toolchain : Toolchain) : ContextBuild Library :=
  ⟨if toolchain.options.bundledPrelude then
      Library.empty.add Prelude.name Prelude.text (toolchain.parse Prelude.text).lower
    else .empty, []⟩

/-- The context of some references. -/
def createContext (toolchain : Toolchain) (references : List String) (isCancelled : Bool) :
    Outcome (ContextBuild Context) := do
  let build ← references.foldlM (fun build name => do
    Outcome.unlessCancelled isCancelled
    return toolchain.load build name) toolchain.bare
  return ⟨⟨build.context, toolchain.options.indentWidth⟩, build.failed⟩

/-- The analysis of a buffer in a context. -/
def compile (toolchain : Toolchain) (context : Context) (source : String) (output : OutputKind)
    (isCancelled : Bool) : Attempt Analysis :=
  Analysis.compile context.library context.indentWidth source (toolchain.parse source).lower output
    isCancelled

/-- The snapshot of a buffer in a context, with the free items gone through in some orders. -/
def snapshot (toolchain : Toolchain) (orders : NameOrders) (context : Context) (source : String)
    (output : OutputKind) (withDiagnostics isCancelled : Bool) : Attempt Snapshot := do
  let analysis ← toolchain.compile context source output isCancelled
  Attempt.ofOutcome (Snapshot.build source analysis.tree (analysis.semantics orders) output
    withDiagnostics isCancelled)

end Toolchain

end SourceLens
