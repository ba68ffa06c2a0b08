import SourceLens.Main
import SourceLens.Proofs.Edit.WireChanges
import SourceLens.Service.Route
import SourceLens.Proofs.Cache.Run
import SourceLens.Proofs.Service.Transparency
import SourceLens.Proofs.Cache.Provenance
import SourceLens.Proofs.Layout.Code
import SourceLens.Proofs.Edit.Script
import SourceLens.Proofs.Layout.RangeEdits
import SourceLens.Proofs.Program.ArmVariables
import SourceLens.Proofs.Edit.RoundTrip
import SourceLens.Proofs.Cache.Recency
import SourceLens.Proofs.Cache.Retention
import SourceLens.Proofs.Cache.Cancellation
import SourceLens.Proofs.Tree.Addresses
import SourceLens.Proofs.Tree.Placement
import SourceLens.Proofs.Tree.Depiction
import SourceLens.Proofs.Declaration.Names
import SourceLens.Proofs.Declaration.Coherence
import SourceLens.Proofs.Program.Spelling
import SourceLens.Proofs.Analysis.Renaming
import SourceLens.Proofs.Analysis.Completion
import SourceLens.Proofs.Analysis.Compilation
import SourceLens.Proofs.Cursor.Context
import SourceLens.Proofs.Cache.HostFailure
import SourceLens.Proofs.Tree.Preorder
import SourceLens.Proofs.Service.Rejection
import SourceLens.Proofs.Tree.Lookup
import SourceLens.Proofs.Layout.Scan
import SourceLens.Proofs.Text.Lines
import SourceLens.Proofs.Layout.Lines
import SourceLens.Proofs.Layout.Outline
import SourceLens.Proofs.Layout.RangeLines
import SourceLens.Proofs.Layout.Idempotence
import SourceLens.Proofs.Layout.Literals
import SourceLens.Proofs.Edit.Acceptance
import SourceLens.Proofs.Edit.Hunks
import SourceLens.Proofs.Query.Overloads
import SourceLens.Proofs.Query.Invocation
import SourceLens.Proofs.Query.HoverRange
import SourceLens.Proofs.Program.Memo
import SourceLens.Proofs.Program.ConditionVariables
import SourceLens.Proofs.Analysis.ScopeCompletion
import SourceLens.Proofs.Cursor.Chain
import SourceLens.Proofs.Symbol.TypeLayout
import SourceLens.Proofs.Text.JoinedLines
import SourceLens.Proofs.Doc.Headed
import SourceLens.Proofs.Cache.Counters
import SourceLens.Proofs.Text.WholeWords
import SourceLens.Proofs.Doc.Cleaning
import SourceLens.Proofs.Cursor.Reading
import SourceLens.Stub.Parse
