import SourceLens.Text.Units

/-!
# Cursor contexts

What stands before a cursor decides what can be inserted there.  It is read from the bytes of the
source, since a buffer that is being edited does not parse at the cursor.  Every look at a byte, every
cut and every step back is checked; `none` would mean that one of them went wrong.
-/

namespace SourceLens

/-- One link of a chain of receivers such as `a.b().c`. -/
structure Segment where
  name : String
  /-- Whether arguments follow it. -/
  isCall : Bool
  deriving DecidableEq, Repr

namespace Cursor

/-- The bytes of names. -/
def isNameByte (byte : UInt8) : Bool :=
  (48 ≤ byte && byte ≤ 57) || (65 ≤ byte && byte ≤ 90) || (97 ≤ byte && byte ≤ 122) || byte == 95

/-- The offset some way before another one, unless that is below zero. -/
def stepBack? (offset distance : Nat) : Option Nat :=
  if distance ≤ offset then some (offset - distance) else none

/-- The last boundary at or before an offset, unless it is below zero. -/
def boundaryBefore? (source : String) : Nat → Option Nat
  | 0 => if Text.isBoundary source 0 then some 0 else none
  | offset + 1 =>
      if Text.isBoundary source (offset + 1) then some (offset + 1)
      else boundaryBefore? source offset

/-- The offset of a cursor: moved back into the source and to a boundary. -/
def clamp? (source : String) (offset : Nat) : Option Nat :=
  boundaryBefore? source (min offset source.utf8ByteSize)

/-- The start of the name that ends at an offset. -/
def nameStart? (bytes : Array UInt8) : Nat → Option Nat
  | 0 => some 0
  | offset + 1 => do
      if isNameByte (← bytes[offset]?) then nameStart? bytes offset else some (offset + 1)

/-- The start of the argument list of which some closing brackets have been passed, from an offset
backwards.  The inner value is missing when the brackets are not balanced. -/
def argumentsStart? (bytes : Array UInt8) : Nat → Nat → Option (Option Nat)
  | 0, _ => some none
  | offset + 1, depth => do
      let byte ← bytes[offset]?
      if byte = 41 then argumentsStart? bytes offset (depth + 1)
      else if byte = 40 then
        match depth with
        | 0 => none
        | 1 => some (some offset)
        | depth + 2 => argumentsStart? bytes offset (depth + 1)
      else argumentsStart? bytes offset depth

/-- The end of the name of the segment that ends at an offset, and whether arguments follow it. -/
def nameEnd? (bytes : Array UInt8) (offset : Nat) : Option (Option (Nat × Bool)) :=
  match offset with
  | 0 => some (some (0, false))
  | before + 1 => do
      if (← bytes[before]?) = 41 then
        let start ← argumentsStart? bytes offset 0
        return start.map fun start => (start, true)
      else some (some (offset, false))

/-- Whether the byte before an offset is a dot. -/
def followsDot? (bytes : Array UInt8) : Nat → Option Bool
  | 0 => some false
  | offset + 1 => do return (← bytes[offset]?) = 46

/-- The chain of segments that ends at an offset, or the empty list when there is none.  It must have
fewer segments than the first argument says. -/
def chainWithin? (source : String) (bytes : Array UInt8) : Nat → Nat → Option (List Segment)
  | 0, _ => none
  | bound + 1, offset => do
      match ← nameEnd? bytes offset with
      | none => return []
      | some (stop, isCall) =>
          let start ← nameStart? bytes stop
          if start = stop then return []
          else
            let name ← Text.slice? source start stop
            if ← followsDot? bytes start then
              let outer ← chainWithin? source bytes bound (← stepBack? start 1)
              return if outer.isEmpty then [] else outer ++ [⟨name, isCall⟩]
            else return [⟨name, isCall⟩]

/-- The chain of segments that ends at an offset, or the empty list when there is none. -/
def chain? (source : String) (offset : Nat) : Option (List Segment) :=
  chainWithin? source (Text.bytes source) (offset + 1) offset

/-- What stands before a cursor. -/
inductive Context where
  /-- A name and two colons, at an offset. -/
  | path (name : String) (offset : Nat)
  /-- A chain of receivers and a dot. -/
  | receiver (chain : List Segment)
  | scope
  deriving DecidableEq, Repr

/-- Whether a byte stands at some distance before an offset. -/
def hasByteBefore (bytes : Array UInt8) (offset distance : Nat) (byte : UInt8) : Bool :=
  distance ≤ offset && bytes[offset - distance]? == some byte

/-- What stands before a cursor that is at a boundary. -/
def context? (source : String) (offset : Nat) : Option Context := do
  let bytes := Text.bytes source
  let wordStart ← nameStart? bytes offset
  let _before ← Text.slice? source 0 wordStart
  if hasByteBefore bytes wordStart 1 58 && hasByteBefore bytes wordStart 2 58 then
    let pathStop ← stepBack? wordStart 2
    let start ← nameStart? bytes pathStop
    return .path (← Text.slice? source start pathStop) wordStart
  else if hasByteBefore bytes wordStart 1 46 && !hasByteBefore bytes wordStart 2 46 then
    return .receiver (← chain? source (← stepBack? wordStart 1))
  else return .scope

end Cursor

end SourceLens
