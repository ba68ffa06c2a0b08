/-!
# Media types

The body of a request is read only if it is declared to be JSON: by a media type `application/json`,
or by one of its kin whose name ends in `+json`, with or without parameters.
-/

namespace SourceLens.MediaType

/-- The characters of names in a media type. -/
def isTokenChar (char : Char) : Bool :=
  char.isAlphanum || "!#$%&'*+-.^_`|~".toList.contains char

/-- The characters that may stand in a quoted value. -/
def isQuotedChar (char : Char) : Bool :=
  0x1f < char.toNat && char.toNat < 0x7f

/-- The text after a quoted value and the spaces behind it.  The value is not empty, and only its
first character may be a quote. -/
def afterQuoted? : List Char → Option (List Char)
  | [] => none
  | first :: rest =>
      match rest.dropWhile fun char => isQuotedChar char && char != '"' with
      | '"' :: after => if isQuotedChar first then some (after.dropWhile (· == ' ')) else none
      | _ => none

/-- Whether a list of parameters follows, each with a name and a value.  The first argument bounds
their number. -/
def areParameters : Nat → List Char → Bool
  | 0, _ => false
  | bound + 1, chars =>
      let start := chars.dropWhile (· == ' ')
      if start.isEmpty then true
      else
        match start.takeWhile isTokenChar, start.dropWhile isTokenChar with
        | _ :: _, '=' :: '"' :: value =>
            match afterQuoted? value with
            | some [] => true
            | some (';' :: rest) => areParameters bound rest
            | _ => false
        | _ :: _, '=' :: value =>
            match value.takeWhile isTokenChar, value.dropWhile isTokenChar with
            | _, [] => true
            | _ :: _, ';' :: rest => areParameters bound rest
            | _, _ => false
        | _, _ => false

/-- The place of the last plus sign of a name that is not its first character. -/
def lastPlus? (name : List Char) : Option Nat :=
  let tail := (name.reverse.takeWhile (· != '+')).length
  if tail + 1 < name.length then some (name.length - tail - 1) else none

/-- Whether a subtype denotes JSON: what stands before its last plus sign, or behind it. -/
def isJsonSubtype (name : List Char) : Bool :=
  match lastPlus? name with
  | some place => name.take place == "json".toList || name.drop (place + 1) == "json".toList
  | none => name == "json".toList

/-- Whether a media type denotes JSON. -/
def isJson (mediaType : String) : Bool :=
  let chars := mediaType.toList.map Char.toLower
  match chars.takeWhile isTokenChar, chars.dropWhile isTokenChar with
  | type, '/' :: rest =>
      let subtype := rest.takeWhile isTokenChar
      let isComplete :=
        match rest.dropWhile isTokenChar with
        | [] => true
        | ';' :: parameters => areParameters (parameters.length + 1) parameters
        | _ => false
      type == "application".toList && isJsonSubtype subtype && isComplete
  | _, _ => false

end SourceLens.MediaType
