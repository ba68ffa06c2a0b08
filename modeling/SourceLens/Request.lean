import SourceLens.Json
import SourceLens.Semantics

/-!
# Requests

A request carries a buffer, the references it needs, and what is asked about it.  Positions are
numbers of UTF-16 units, as the editor counts them, and have not been checked.
-/

namespace SourceLens

/-- What can be asked. -/
inductive Endpoint where
  | complete
  | resolve
  | signature
  | hover
  | codeCheck
  | definition
  | rename
  | format
  deriving DecidableEq, Repr

/-- What is asked. -/
inductive Question where
  | complete (position : Int)
  | resolve (position : Int) (suggestion : String)
  | signature (position : Int)
  | hover (position : Int)
  | codeCheck
  | definition (position : Int)
  | rename (position : Int) (newName : String)
  | format (start stop : Int)
  deriving DecidableEq, Repr

/-- A request. -/
structure Request where
  code : String
  assemblies : Option (List String)
  /-- What the buffer is meant to become. -/
  output : Option OutputKind
  question : Question
  deriving DecidableEq, Repr

/-- The position that a question is about. -/
def Question.position? : Question → Option Int
  | .complete position | .resolve position _ | .signature position | .hover position
  | .definition position | .rename position _ => some position
  | .codeCheck | .format _ _ => none

/-- The members of a question. -/
def Question.members : Question → List (String × Json)
  | .complete position | .signature position | .hover position | .definition position =>
      [("Position", .integer position)]
  | .resolve position suggestion =>
      [("Position", .integer position), ("Suggestion", .string suggestion)]
  | .codeCheck => []
  | .rename position newName => [("Position", .integer position), ("NewName", .string newName)]
  | .format start stop => [("Start", .integer start), ("End", .integer stop)]

/-- A request as it is written. -/
def Request.toJson (request : Request) : Json :=
  .object ([("Code", .string request.code), ("Assemblies", .ofOption .strings request.assemblies)] ++
    request.question.members ++
    (request.output.map fun output => ("OutputKind", Json.string output.name)).toList)

end SourceLens
