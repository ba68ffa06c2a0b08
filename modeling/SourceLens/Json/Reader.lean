import SourceLens.Json

/-!
# Reading JSON

The reader accepts exactly the JSON grammar: no leading zeros, no bare control characters in
strings, no trailing text.  Each function returns what it read and the text that follows.
-/

namespace SourceLens.Json

/-- The characters that may stand between tokens. -/
def isSpace (char : Char) : Bool :=
  char == ' ' || char == '\t' || char == '\n' || char == '\r'

/-- The text after leading space. -/
def skipSpace (chars : List Char) : List Char :=
  chars.dropWhile isSpace

/-- The value of a hexadecimal digit. -/
def hexDigit? (char : Char) : Option Nat :=
  if '0' ≤ char ∧ char ≤ '9' then some (char.toNat - '0'.toNat)
  else if 'a' ≤ char ∧ char ≤ 'f' then some (char.toNat - 'a'.toNat + 10)
  else if 'A' ≤ char ∧ char ≤ 'F' then some (char.toNat - 'A'.toNat + 10)
  else none

/-- The value of four hexadecimal digits. -/
def hexUnit? (first second third fourth : Char) : Option Nat := do
  let first ← hexDigit? first
  let second ← hexDigit? second
  let third ← hexDigit? third
  let fourth ← hexDigit? fourth
  return ((first * 16 + second) * 16 + third) * 16 + fourth

/-- The character of a short escape. -/
def escaped? : Char → Option Char
  | '"' => some '"'
  | '\\' => some '\\'
  | '/' => some '/'
  | 'b' => some (Char.ofNat 8)
  | 'f' => some (Char.ofNat 12)
  | 'n' => some '\n'
  | 'r' => some '\r'
  | 't' => some '\t'
  | _ => none

/-- A part of a string as written: a character, or a code unit given by its number. -/
inductive Piece where
  | char (value : Char)
  /-- An escaped UTF-16 code unit. -/
  | unit (value : Nat)

/-- The parts of a string up to its closing quote. -/
def readPieces : List Char → Option (List Piece × List Char)
  | '"' :: rest => some ([], rest)
  | '\\' :: 'u' :: first :: second :: third :: fourth :: rest => do
      let value ← hexUnit? first second third fourth
      let (pieces, rest) ← readPieces rest
      return (.unit value :: pieces, rest)
  | '\\' :: char :: rest => do
      let value ← escaped? char
      let (pieces, rest) ← readPieces rest
      return (.char value :: pieces, rest)
  | char :: rest => do
      if char.toNat < 0x20 then none
      let (pieces, rest) ← readPieces rest
      return (.char char :: pieces, rest)
  | [] => none

/-- The text that the parts of a string denote, if every surrogate has its partner. -/
def joinPieces? : List Piece → Option (List Char)
  | [] => some []
  | .char char :: pieces => (joinPieces? pieces).map (char :: ·)
  | .unit high :: .unit low :: pieces =>
      if 0xD800 ≤ high ∧ high < 0xDC00 then
        if 0xDC00 ≤ low ∧ low < 0xE000 then
          (joinPieces? pieces).map
            (Char.ofNat (0x10000 + (high - 0xD800) * 0x400 + (low - 0xDC00)) :: ·)
        else none
      else if 0xDC00 ≤ high ∧ high < 0xE000 then none
      else (joinPieces? (.unit low :: pieces)).map (Char.ofNat high :: ·)
  | .unit value :: pieces =>
      if 0xD800 ≤ value ∧ value < 0xE000 then none
      else (joinPieces? pieces).map (Char.ofNat value :: ·)

/-- The part of a text that was read, given what was left. -/
def consumed (chars rest : List Char) : List Char :=
  chars.take (chars.length - rest.length)

/-- The rest of a string after its opening quote. -/
def readString (chars : List Char) : Option (Json × List Char) :=
  (readPieces chars).map fun (pieces, rest) =>
    match joinPieces? pieces with
    | some text => (.string (String.ofList text), rest)
    | none => (.brokenString (String.ofList (consumed chars ('"' :: rest))), rest)

/-- The number that decimal digits denote. -/
def digitsValue (digits : List Char) : Nat :=
  digits.foldl (fun value digit => value * 10 + (digit.toNat - '0'.toNat)) 0

/-- At least one digit, and the text after the digits. -/
def readDigits (chars : List Char) : Option (List Char × List Char) :=
  match chars.span Char.isDigit with
  | ([], _) => none
  | parts => some parts

/-- Digits without a leading zero. -/
def readWhole : List Char → Option (List Char × List Char)
  | '0' :: rest =>
      match rest with
      | char :: _ => if char.isDigit then none else some (['0'], rest)
      | [] => some (['0'], rest)
  | chars => readDigits chars

/-- The text after a fraction, and whether there is one. -/
def readFraction : List Char → Option (Bool × List Char)
  | '.' :: rest => (readDigits rest).map fun parts => (true, parts.2)
  | chars => some (false, chars)

/-- The text after an exponent, and whether there is one. -/
def readExponent : List Char → Option (Bool × List Char)
  | mark :: rest =>
      if mark = 'e' ∨ mark = 'E' then
        let digits :=
          match rest with
          | '+' :: digits => digits
          | '-' :: digits => digits
          | digits => digits
        (readDigits digits).map fun parts => (true, parts.2)
      else some (false, mark :: rest)
  | [] => some (false, [])

/-- A number.  Minus zero counts as a fraction. -/
def readNumber (chars : List Char) : Option (Json × List Char) := do
  let (negative, unsigned) :=
    match chars with
    | '-' :: unsigned => (true, unsigned)
    | unsigned => (false, unsigned)
  let (digits, rest) ← readWhole unsigned
  let (hasFraction, rest) ← readFraction rest
  let (hasExponent, rest) ← readExponent rest
  let value := digitsValue digits
  if hasFraction || hasExponent || (negative && value == 0) then
    return (.fraction (String.ofList (consumed chars rest)), rest)
  else return (.integer (if negative then -(value : Int) else value), rest)

/-- A keyword and the value it stands for. -/
def readKeyword (keyword : String) (value : Json) (chars : List Char) :
    Option (Json × List Char) :=
  if keyword.toList.isPrefixOf chars then some (value, chars.drop keyword.length) else none

mutual

/-- A value.  The first argument bounds the nesting, and exceeds the length of the text. -/
def readValue : Nat → List Char → Option (Json × List Char)
  | 0, _ => none
  | bound + 1, chars =>
      match skipSpace chars with
      | '"' :: rest => readString rest
      | '[' :: rest =>
          match skipSpace rest with
          | ']' :: rest => some (.array [], rest)
          | rest =>
              (readElements bound rest).map fun (elements, rest) => (.array elements, rest)
      | '{' :: rest =>
          match skipSpace rest with
          | '}' :: rest => some (.object [], rest)
          | rest => (readMembers bound rest).map fun (members, rest) => (.object members, rest)
      | 'n' :: rest => readKeyword "null" .null ('n' :: rest)
      | 't' :: rest => readKeyword "true" (.bool true) ('t' :: rest)
      | 'f' :: rest => readKeyword "false" (.bool false) ('f' :: rest)
      | rest => readNumber rest

/-- The elements of an array from one of them to the closing bracket. -/
def readElements : Nat → List Char → Option (List Json × List Char)
  | 0, _ => none
  | bound + 1, chars => do
      let (element, rest) ← readValue bound chars
      match skipSpace rest with
      | ',' :: rest =>
          let (elements, rest) ← readElements bound rest
          return (element :: elements, rest)
      | ']' :: rest => return ([element], rest)
      | _ => none

/-- The members of an object from one of them to the closing brace. -/
def readMembers : Nat → List Char → Option (List (String × Json) × List Char)
  | 0, _ => none
  | bound + 1, chars => do
      match skipSpace chars with
      | '"' :: rest =>
          let (name, rest) ← readString rest
          let name ← name.asString?
          match skipSpace rest with
          | ':' :: rest =>
              let (value, rest) ← readValue bound rest
              match skipSpace rest with
              | ',' :: rest =>
                  let (members, rest) ← readMembers bound rest
                  return ((name, value) :: members, rest)
              | '}' :: rest => return ([(name, value)], rest)
              | _ => none
          | _ => none
      | _ => none

end

/-- The value that a text denotes. -/
def parse? (text : String) : Option Json := do
  let chars := text.toList
  let (value, rest) ← readValue (2 * chars.length + 2) chars
  if (skipSpace rest).isEmpty then return value else none

end SourceLens.Json
