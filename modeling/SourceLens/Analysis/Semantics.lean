import SourceLens.Analysis.Completion
import SourceLens.Analysis.Diagnostics
import SourceLens.Analysis.Rename
import SourceLens.Layout

/-!
# The semantics of an analysis
-/

namespace SourceLens.Analysis

/-- The edits that lay out the buffer, or a part of it. -/
def formatEdits (analysis : Analysis) (span : Option Span) (isCancelled : Bool) :
    Outcome (List Edit) := do
  Outcome.unlessCancelled isCancelled
  Outcome.orCrash (Layout.edits? analysis.source.toList span analysis.indentWidth)

/-- The answers of an analysis to what can be asked about its buffer, with its free items gone through
in some orders. -/
def semantics (analysis : Analysis) (orders : NameOrders) : Semantics where
  language := "rust"
  documentText := analysis.documentText?
  diagnostics := analysis.diagnostics
  symbolAt := analysis.symbolAt?
  declared := analysis.declared?
  bound := analysis.bound?
  typeOf := analysis.typeOf?
  typeSymbol := analysis.typeSymbol?
  findDeclaration symbol := analysis.program.symbol? symbol.id
  documentation := analysis.documentation?
  memberGroup := analysis.memberGroup
  asValue := analysis.asValue?
  asType := analysis.asType?
  isStaticAt := analysis.isStaticAt
  completions := analysis.completions orders
  describe := analysis.describe
  formatEdits := analysis.formatEdits
  rename := analysis.rename

end SourceLens.Analysis
