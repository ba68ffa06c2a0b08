import SourceLens.Doc.Headed
import SourceLens.Doc.Tagged

/-!
# Sections of documentation

A text that has a section in tags is read as tagged, any other text by its headings.
-/

namespace SourceLens.Doc

/-- The sections of the body of a documentation comment. -/
def parse (text : String) : Doc :=
  let chars := text.toList
  if isTagged chars then ofTagged chars else ofHeaded chars

end SourceLens.Doc
