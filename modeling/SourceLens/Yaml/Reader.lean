import SourceLens.Yaml
import SourceLens.Yaml.Scalar

/-!
# Reading YAML

A document is a scalar, a sequence or a mapping.  Sequences and mappings are written in brackets, or
over lines that start in one column.  Comments are skipped; tags, anchors, scalars given by a block of
lines, keys given by a question mark and directives are not read.

Each reader returns what it read and the place after it.  The first argument of those that call each
other bounds the depth of the calls.
-/

namespace SourceLens.Yaml

/-- The place of the next word.  Outside brackets a tab before the first word of a line is refused. -/
def skipFrom (inFlow hasTabs isComment : Bool) : List Char → Nat → Nat → Option Point
  | [], line, column => some ⟨[], line, column⟩
  | char :: rest, line, column =>
      if isBreak char then skipFrom inFlow inFlow false rest (line + 1) 0
      else if isComment || char == ' ' || (char == '\t' && hasTabs) then
        skipFrom inFlow hasTabs isComment rest line (column + 1)
      else if char = '\t' then none
      else if char = '#' then skipFrom inFlow hasTabs true rest line (column + 1)
      else some ⟨char :: rest, line, column⟩

/-- The place of the next word; tabs may come before it on the line. -/
def Point.skip? (point : Point) (inFlow : Bool) : Option Point :=
  skipFrom inFlow true false point.rest point.line point.column

/-- The place of the next word; only spaces may come before it on the line. -/
def Point.skipSpaces? (point : Point) : Option Point :=
  skipFrom false false false point.rest point.line point.column

/-- The place after the colon that makes a key of what was read from `start` on.  Key and colon stand
on one line. -/
def Point.afterColon? (point start : Point) (inFlow : Bool) : Option Point := do
  let colon ← point.skip? inFlow
  match colon.rest with
  | ':' :: rest =>
      if colon.line = start.line ∧ (inFlow ∨ isApart rest) then some (colon.drop 1) else none
  | _ => none

/-- Whether an item of a sequence starts at a place. -/
def Point.isItem (point : Point) : Bool :=
  match point.rest with
  | '-' :: rest => isApart rest
  | _ => false

mutual

/-- Reads a scalar, or a sequence or mapping in brackets. -/
def readAtom (inFlow : Bool) (least : Nat) : Nat → Point → Option (Yaml × Point)
  | 0, _ => none
  | depth + 1, point =>
      if point.isEnd then none
      else
        match point.rest with
        | '[' :: _ => do
            let (items, point) ← readItems least depth (point.drop 1)
            return (.sequence items, point)
        | '\x7b' :: _ => do
            let (entries, point) ← readEntries least depth (point.drop 1)
            return (.mapping entries, point)
        | char :: rest => do
            if char = '\'' ∨ char = '"' then
              let (text, point) ← quoted? point
              return (.scalar text false, point)
            else if startsPlain inFlow (char :: rest) then
              let (text, point) ← plain? inFlow least point
              return (.scalar text true, point)
            else none
        | [] => none

/-- Reads what stands inside brackets after a colon, up to a comma or the closing bracket. -/
def readFlowValue (least : Nat) : Nat → Point → Option (Yaml × Point)
  | 0, _ => none
  | depth + 1, point => do
      let point ← point.skip? true
      match point.rest with
      | ',' :: _ => some (empty, point)
      | ']' :: _ => some (empty, point)
      | '\x7d' :: _ => some (empty, point)
      | _ => readAtom true least depth point

/-- Reads the items of a sequence in brackets.  An item with a colon is a mapping of one entry. -/
def readItems (least : Nat) : Nat → Point → Option (List Yaml × Point)
  | 0, _ => none
  | depth + 1, point => do
      let start ← point.skip? true
      if start.rest.head? = some ']' then return ([], start.drop 1)
      let (first, point) ← readAtom true least depth start
      let (item, point) ←
        match point.afterColon? start true with
        | some point => do
            let (value, point) ← readFlowValue least depth point
            pure (Yaml.mapping [(first, value)], point)
        | none => some (first, point)
      let point ← point.skip? true
      match point.rest with
      | ',' :: _ => do
          let (items, point) ← readItems least depth (point.drop 1)
          return (item :: items, point)
      | ']' :: _ => return ([item], point.drop 1)
      | _ => none

/-- Reads the entries of a mapping in brackets.  A key without a colon has an empty value. -/
def readEntries (least : Nat) : Nat → Point → Option (List (Yaml × Yaml) × Point)
  | 0, _ => none
  | depth + 1, point => do
      let start ← point.skip? true
      if start.rest.head? = some '\x7d' then return ([], start.drop 1)
      let (key, point) ← readAtom true least depth start
      let (value, point) ←
        match point.afterColon? start true with
        | some point => readFlowValue least depth point
        | none => some (empty, point)
      let point ← point.skip? true
      match point.rest with
      | ',' :: _ => do
          let (entries, point) ← readEntries least depth (point.drop 1)
          return ((key, value) :: entries, point)
      | '\x7d' :: _ => return ([(key, value)], point.drop 1)
      | _ => none

end

mutual

/-- Reads a value at the start of a line or after the mark of an item: a sequence or mapping over
lines, or what stands in one place. -/
def readBlock (least : Nat) : Nat → Point → Option (Yaml × Point)
  | 0, _ => none
  | depth + 1, point => do
      if point.isItem then
        let (items, after) ← readLines point.column false depth point
        return (.sequence items, after)
      else
        let (atom, after) ← readAtom false least depth point
        match after.afterColon? point false with
        | some after => do
            let (entries, after) ← readPairs point.column depth atom after
            return (.mapping entries, after)
        | none => return (atom, after)

/-- Reads the items of a sequence whose marks stand in one column.  A sequence that is the value of a
key in the same column is followed by further keys. -/
def readLines (column : Nat) (isLevel : Bool) : Nat → Point → Option (List Yaml × Point)
  | 0, _ => none
  | depth + 1, point => do
      let start ← (point.drop 1).skipSpaces?
      let (item, after) ←
        if start.isEnd ∨ start.column ≤ column then some (empty, start)
        else readBlock (column + 1) depth start
      let after ← after.skip? false
      if after.isEnd ∨ after.column < column then return ([item], after)
      else if column < after.column then none
      else if after.isItem then
        let (items, after) ← readLines column isLevel depth after
        return (item :: items, after)
      else if isLevel then return ([item], after)
      else none

/-- Reads the entries of a mapping whose keys stand in one column, from the place after the colon of
the first key on. -/
def readPairs (column : Nat) : Nat → Yaml → Point → Option (List (Yaml × Yaml) × Point)
  | 0, _, _ => none
  | depth + 1, key, colon => do
      let start ← colon.skip? false
      let (value, after) ←
        if start.isEnd then some (empty, start)
        else if start.line = colon.line then readAtom false (column + 1) depth start
        else if column < start.column then readBlock (column + 1) depth start
        else if start.column = column ∧ start.isItem then do
          let (items, after) ← readLines column true depth start
          pure (Yaml.sequence items, after)
        else some (empty, start)
      let after ← after.skip? false
      if after.isEnd ∨ after.column < column then return ([(key, value)], after)
      else if column < after.column then none
      else
        let (next, point) ← readAtom false (column + 1) depth after
        let colon ← point.afterColon? after false
        let (entries, after) ← readPairs column depth next colon
        return ((key, value) :: entries, after)

end

/-- Whether nothing but the ends of documents follows.  The first argument bounds their number. -/
def isOver : Nat → Point → Bool
  | 0, _ => false
  | bound + 1, point =>
      match point.skip? false with
      | some point => point.rest.isEmpty || (point.isDivider '.' && isOver bound (point.drop 3))
      | none => false

/-- Reads a document.  A line of three hyphens may introduce it; what stands on that line is no
mapping and no sequence over lines. -/
def readDocument (depth : Nat) (point : Point) : Option (Yaml × Point) := do
  let start ← point.skipSpaces?
  if start.rest.isEmpty then return (empty, start)
  else if start.isDivider '-' then
    let first ← (start.drop 3).skip? false
    if first.isEnd then return (empty, first)
    else if first.line = start.line then readAtom false 0 depth first
    else readBlock 0 depth first
  else readBlock 0 depth start

/-- The characters that a text may hold. -/
def isAllowed (char : Char) : Bool :=
  let code := char.toNat
  code == 0x9 || code == 0xA || code == 0xD || (0x20 ≤ code && code ≤ 0x7E) || code == 0x85 ||
    (0xA0 ≤ code && code ≤ 0xFFFD && code != 0xFEFF) || 0x10000 ≤ code

/-- A text with a line feed for each carriage return, alone or before a line feed, and each next-line
character. -/
def normalizeBreaks : List Char → List Char
  | [] => []
  | '\r' :: '\n' :: rest => '\n' :: normalizeBreaks rest
  | '\r' :: rest => '\n' :: normalizeBreaks rest
  | '\u0085' :: rest => '\n' :: normalizeBreaks rest
  | char :: rest => char :: normalizeBreaks rest

/-- The value of a text with one document. -/
def ofText? (text : String) : Option Yaml := do
  let chars :=
    match text.toList with
    | '\ufeff' :: rest => rest
    | chars => chars
  if chars.all isAllowed then
    let chars := normalizeBreaks chars
    let bound := 3 * chars.length + 8
    let (value, after) ← readDocument bound ⟨chars, 0, 0⟩
    if isOver bound after then return value else none
  else none

end SourceLens.Yaml
