import SourceLens.Request

/-!
# Decoding requests

A request is an object with named fields, or an array of the fields in order.  Fields without which
the request makes sense may be missing.  Unknown fields are ignored, a field that is given twice is
refused.
-/

namespace SourceLens

namespace Json

/-- The values of the fields of a record.  In an array the fields stand in order. -/
def fields? (names : List String) : Json → Option (List (Option Json))
  | .object entries =>
      if names.all fun name => (entries.filter fun entry => entry.1 == name).length ≤ 1 then
        some (names.map fun name => (Json.object entries).get? name)
      else none
  | .array values =>
      if values.length ≤ names.length then
        some (names.mapIdx fun index _ => values[index]?)
      else none
  | _ => none

/-- The least integer of 64 bits. -/
def minInteger : Int :=
  -0x8000000000000000

/-- The greatest integer of 64 bits. -/
def maxInteger : Int :=
  0x7fffffffffffffff

/-- An integer of 64 bits. -/
def wordOf? : Json → Option Int
  | .integer value => if minInteger ≤ value ∧ value ≤ maxInteger then some value else none
  | _ => none

/-- A list of strings. -/
def stringsOf? : Json → Option (List String)
  | .array values => values.mapM asString?
  | _ => none

/-- A value that may be missing or `null`. -/
def optional? {α : Type} (decode : Json → Option α) : Option Json → Option (Option α)
  | none => some none
  | some .null => some none
  | some value => (decode value).map some

/-- A value that has a default when it is missing. -/
def orDefault? {α : Type} (default : α) (decode : Json → Option α) : Option Json → Option α
  | none => some default
  | some value => decode value

end Json

/-- The output kind that a value denotes: a name, or an object with the name as its only member. -/
def OutputKind.ofJson? : Json → Option OutputKind
  | .string name => OutputKind.ofName? name
  | .object [(name, .null)] => OutputKind.ofName? name
  | _ => none

namespace Endpoint

/-- The names of the fields of a question. -/
def fieldNames : Endpoint → List String
  | .complete | .signature | .hover | .definition => ["Position"]
  | .resolve => ["Position", "Suggestion"]
  | .codeCheck => []
  | .rename => ["Position", "NewName"]
  | .format => ["Start", "End"]

/-- The question that the values of the fields denote. -/
def question? (endpoint : Endpoint) (values : List (Option Json)) : Option Question :=
  let integer := fun (index : Nat) => ((values[index]?).join).bind Json.wordOf?
  let text := fun (index : Nat) => ((values[index]?).join).bind Json.asString?
  let offset := fun (index : Nat) => Json.orDefault? 0 Json.wordOf? (values[index]?).join
  match endpoint with
  | .complete => (integer 0).map .complete
  | .resolve => do return .resolve (← integer 0) (← text 1)
  | .signature => (integer 0).map .signature
  | .hover => (integer 0).map .hover
  | .codeCheck => some .codeCheck
  | .definition => (integer 0).map .definition
  | .rename => do return .rename (← integer 0) (← text 1)
  | .format => do return .format (← offset 0) (← offset 1)

end Endpoint

/-- The request that a value denotes. -/
def Request.decode? (endpoint : Endpoint) (value : Json) : Option Request := do
  let names := ["Code", "Assemblies"] ++ endpoint.fieldNames ++ ["OutputKind"]
  match ← value.fields? names with
  | code :: assemblies :: rest =>
      let code ← code.bind Json.asString?
      let assemblies ← Json.optional? Json.stringsOf? assemblies
      let output ← Json.optional? OutputKind.ofJson? (rest[endpoint.fieldNames.length]?).join
      let question ← endpoint.question? rest
      return ⟨code, assemblies, output, question⟩
  | _ => none

end SourceLens
