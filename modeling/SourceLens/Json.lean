/-!
# JSON values

Requests and answers travel as JSON.  Objects keep their members in the order written, duplicates
included, since a record that is given twice is refused.  A string with an escaped surrogate that
has no partner denotes no text; it is legal where a value is skipped, and nowhere else.
-/

namespace SourceLens

/-- A JSON value. -/
inductive Json where
  | null
  | bool (value : Bool)
  /-- A number written without fraction and exponent. -/
  | integer (value : Int)
  /-- Any other number, as written. -/
  | fraction (written : String)
  | string (value : String)
  /-- A string that denotes no text, as written between its quotes. -/
  | brokenString (written : String)
  | array (elements : List Json)
  | object (members : List (String × Json))
  deriving Inhabited

namespace Json

/-- A natural number. -/
def nat (value : Nat) : Json :=
  .integer value

/-- A list of strings. -/
def strings (values : List String) : Json :=
  .array (values.map .string)

/-- A value that may be absent. -/
def ofOption {α : Type} (encode : α → Json) : Option α → Json
  | none => .null
  | some value => encode value

/-- A string that may be absent. -/
def optionString : Option String → Json :=
  ofOption .string

/-- The value of the first member with a name. -/
def get? (name : String) : Json → Option Json
  | .object members => (members.find? fun entry => entry.1 == name).map Prod.snd
  | _ => none

/-- The elements of an array. -/
def asArray? : Json → Option (List Json)
  | .array elements => some elements
  | _ => none

/-- The text of a string. -/
def asString? : Json → Option String
  | .string value => some value
  | _ => none

/-- The value of an integer. -/
def asInt? : Json → Option Int
  | .integer value => some value
  | _ => none

/-- The value of an integer that is not negative. -/
def asNat? : Json → Option Nat
  | .integer (.ofNat value) => some value
  | _ => none

/-- The truth value. -/
def asBool? : Json → Option Bool
  | .bool value => some value
  | _ => none

end Json

end SourceLens
