import SourceLens.Request
import SourceLens.Text.Blank
import SourceLens.Text.Units

/-!
# Validating requests

A position lies between the start and the end of the buffer, a range too, and a new name is not blank.
Nothing is asked of an engine before that is checked.
-/

namespace SourceLens

/-- Why a request is refused. -/
inductive RequestFault where
  | negativePosition (position : Int)
  | positionPastEnd (position : Int) (length : Nat)
  | badRange (start stop : Int) (length : Nat)
  | blankName
  deriving DecidableEq, Repr

/-- What there is to say about a fault. -/
def RequestFault.message : RequestFault → String
  | .negativePosition position => "position " ++ toString position ++ " is negative"
  | .positionPastEnd position length =>
      "position " ++ toString position ++ " is past the end of the code (length " ++
        toString length ++ ")"
  | .badRange start stop length =>
      "format range " ++ toString start ++ ".." ++ toString stop ++
        " is invalid for code of length " ++ toString length
  | .blankName => "new name is empty"

/-- What is asked, with positions that fit the buffer. -/
inductive Query where
  | complete (position : Nat)
  | resolve (position : Nat) (suggestion : String)
  | signature (position : Nat)
  | hover (position : Nat)
  | codeCheck
  | definition (position : Nat)
  | rename (position : Nat) (newName : String)
  | format (range : Option (Nat × Nat))
  deriving DecidableEq, Repr

namespace Request

/-- The length of the buffer in UTF-16 units. -/
def codeLength (code : String) : Nat :=
  Text.unitLength code.toList

/-- A position that fits the buffer. -/
def validPosition (code : String) (position : Int) : Except RequestFault Nat :=
  let length := codeLength code
  if position < 0 then .error (.negativePosition position)
  else if position ≤ length then .ok position.toNat
  else .error (.positionPastEnd position length)

/-- A range that fits the buffer, or none for the whole buffer.  A range counts only when one of its
ends is positive. -/
def validRange (code : String) (start stop : Int) : Except RequestFault (Option (Nat × Nat)) :=
  if start ≤ 0 ∧ stop ≤ 0 then .ok none
  else
    let length := codeLength code
    if 0 ≤ start ∧ start ≤ stop ∧ stop ≤ length then .ok (some (start.toNat, stop.toNat))
    else .error (.badRange start stop length)

/-- A name that is not blank, without the blanks around it. -/
def validName (name : String) : Except RequestFault String :=
  let trimmed := Text.mapChars Text.trim name
  if trimmed.isEmpty then .error .blankName else .ok trimmed

/-- What is asked, when it fits the buffer. -/
def validate (request : Request) : Except RequestFault Query :=
  match request.question with
  | .complete position => return .complete (← validPosition request.code position)
  | .resolve position suggestion =>
      return .resolve (← validPosition request.code position) suggestion
  | .signature position => return .signature (← validPosition request.code position)
  | .hover position => return .hover (← validPosition request.code position)
  | .codeCheck => return .codeCheck
  | .definition position => return .definition (← validPosition request.code position)
  | .rename position newName => do
      let position ← validPosition request.code position
      return .rename position (← validName newName)
  | .format start stop => return .format (← validRange request.code start stop)

end Request

end SourceLens
