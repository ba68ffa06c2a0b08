import SourceLens.Json
import SourceLens.Snapshot

/-!
# Completions for an editor

Completions are listed with a tag, and with a description if it is asked for.  A description can also
be asked for later, for one suggestion.
-/

namespace SourceLens

/-- The tag by which an editor knows a kind of candidate. -/
def CandidateKind.tag : CandidateKind → String
  | .method | .function => "Method"
  | .variable => "Local"
  | .field => "Field"
  | .property => "Property"
  | .struct => "Structure"
  | .enumeration => "Enum"
  | .interface => "Interface"
  | .classType => "Class"
  | .variant => "EnumMember"
  | .constant => "Constant"
  | .submodule => "Namespace"
  | .keyword => "Keyword"
  | .text => "Text"

/-- A completion as it is listed. -/
structure Completion where
  /-- The text to insert. -/
  suggestion : String
  description : Option String
  tag : String
  deriving DecidableEq, Repr

/-- A completion as an editor reads it. -/
def Completion.toJson (completion : Completion) : Json :=
  .object [("Suggestion", .string completion.suggestion),
    ("Description", .optionString completion.description), ("Tag", .string completion.tag)]

namespace Snapshot

/-- A candidate as it is listed. -/
def completionOf (snapshot : Snapshot) (isDescribed : Bool) (candidate : Candidate) : Completion where
  suggestion := candidate.label
  description := if isDescribed then snapshot.semantics.describe candidate else none
  tag := candidate.kind.tag

/-- The completions at an offset, with descriptions if they are wanted at once. -/
def complete (snapshot : Snapshot) (offset : Nat) (isEager isCancelled : Bool) :
    Outcome (List Completion) := do
  let candidates ← snapshot.semantics.completions offset isCancelled
  candidates.mapM fun candidate => do
    if isEager then Outcome.unlessCancelled isCancelled
    return snapshot.completionOf isEager candidate

/-- The completion at an offset with a given text, with its description. -/
def describeCompletion (snapshot : Snapshot) (offset : Nat) (suggestion : String)
    (isCancelled : Bool) : Outcome (Option Completion) := do
  let candidates ← snapshot.semantics.completions offset isCancelled
  return (candidates.find? fun candidate => candidate.label == suggestion).map
    (snapshot.completionOf true)

end Snapshot

end SourceLens
