import SourceLens.Declaration.Collect
import SourceLens.Declaration.Filing

/-!
# Libraries

The references of a buffer are loaded once into a library: their texts, and one table of all that
they declare.
-/

namespace SourceLens

/-- A reference that was loaded. -/
structure LoadedDocument where
  /-- The name under which it was asked for. -/
  name : String
  text : String

/-- The references of a buffer. -/
structure Library where
  /-- The references in the order in which they were loaded. -/
  documents : List LoadedDocument
  /-- What they declare. -/
  table : SymbolTable
  /-- The table was filled by pushing alone. -/
  filed : table.IsFiled

namespace Library

/-- The library without references. -/
def empty : Library :=
  ⟨[], .empty 0, SymbolTable.isFiled_empty 0⟩

/-- The library with one more reference. -/
def add (library : Library) (name text : String) (tree : Tree) : Library :=
  let document : Document := ⟨.reference library.documents.length, text, tree⟩
  ⟨library.documents ++ [⟨name, text⟩], library.table.append document.declarations,
    library.filed.append document.declarations⟩

/-- The names of the references. -/
def names (library : Library) : List String :=
  library.documents.map LoadedDocument.name

end Library

end SourceLens
