import SourceLens.Edit.Comparison
import SourceLens.Json
import SourceLens.Snapshot

/-!
# Actions

Renaming and formatting are answered with an action: a title and the changes to carry out, in UTF-16
units.
-/

namespace SourceLens

/-- A change of a range of a document. -/
structure Change where
  /-- The range, in UTF-16 units. -/
  range : Nat × Nat
  newText : String
  deriving DecidableEq, Repr

/-- Changes under a title. -/
structure Action where
  title : String
  changes : List Change
  deriving DecidableEq, Repr

/-- A change as an editor reads it. -/
def Change.toJson (change : Change) : Json :=
  .object [("OffsetFrom", .nat change.range.1), ("OffsetTo", .nat change.range.2),
    ("NewText", .string change.newText)]

/-- An action as an editor reads it. -/
def Action.toJson (action : Action) : Json :=
  .object [("Title", .string action.title), ("Id", .null),
    ("ChangesInDocument", .array (action.changes.map Change.toJson))]

/-- An edit as a change, by the offsets of the text that it applies to. -/
def Edit.toChange (offsets : OffsetIndex) (edit : Edit) : Change :=
  ⟨offsets.toUnits edit.span, String.ofList edit.newText⟩

/-- The edits of a text in order, or a failure when they cannot be applied. -/
def Edit.ordered (text : String) (edits : List Edit) : Outcome (List Edit) :=
  match Edit.normalize edits text.utf8ByteSize with
  | .ok edits => .ok edits
  | .error error => Outcome.fail (.internal error.message)

namespace Snapshot

/-- The action that lays out the buffer, or a part of it. -/
def format (snapshot : Snapshot) (span : Option Span) (isCancelled : Bool) :
    Outcome (List Action) := do
  let edits ← snapshot.semantics.formatEdits span isCancelled
  Outcome.unlessCancelled isCancelled
  let edits ← Edit.ordered snapshot.source edits
  return [⟨"Format Document", edits.map (Edit.toChange snapshot.offsets)⟩]

/-- The text of a document that is to be edited. -/
def editedText (snapshot : Snapshot) : DocumentId → Outcome String
  | .source => .ok snapshot.source
  | .reference index =>
      match snapshot.semantics.documentText (.reference index) with
      | some text => .ok text
      | none =>
          Outcome.fail
            (.internal ("rename touched unknown document Reference(" ++ toString index ++ ")"))

/-- The changes between a document and the document with edits carried out. -/
def documentChanges (snapshot : Snapshot) (isCancelled : Bool) (document : DocumentId)
    (edits : List Edit) : Outcome (List Change) := do
  Outcome.unlessCancelled isCancelled
  let text ← snapshot.editedText document
  let edits ← Edit.ordered text edits
  let before := text.toList
  let after ← Outcome.orCrash (Edit.applied? before edits)
  let changes ← Outcome.orCrash (Edit.between? before after)
  return changes.map (Edit.toChange (.ofText text))

/-- The action that renames the symbol at an offset. -/
def rename (snapshot : Snapshot) (offset : Nat) (newName : String) (isCancelled : Bool) :
    Outcome (Option Action) := do
  Outcome.unlessCancelled isCancelled
  match snapshot.semantics.symbolAt offset with
  | none => return none
  | some symbol =>
      let documents ← snapshot.semantics.rename symbol newName isCancelled
      let changes ← documents.mapM fun (document, edits) =>
        snapshot.documentChanges isCancelled document edits
      return some ⟨"Rename to " ++ newName, changes.flatten⟩

end Snapshot

end SourceLens
