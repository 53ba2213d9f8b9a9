import QueryPipe.CommandLine.Program
import QueryPipe.Files.Discover
import QueryPipe.Files.Source
import QueryPipe.Literal.Query
import QueryPipe.Main
import QueryPipe.Patch.Unified
import QueryPipe.Run.Batch
import QueryPipe.Run.Request
import QueryPipe.Settings.Places
import QueryPipe.Site.Unit
import QueryPipe.Proofs.Arena
import QueryPipe.Proofs.Arity
import QueryPipe.Proofs.ArrivalOrder
import QueryPipe.Proofs.ByteOffsets
import QueryPipe.Proofs.ByteReading
import QueryPipe.Proofs.CanonicalForm
import QueryPipe.Proofs.CharacterBytes
import QueryPipe.Proofs.CommandOutput
import QueryPipe.Proofs.Delimited
import QueryPipe.Proofs.Derivations
import QueryPipe.Proofs.Diagnostics
import QueryPipe.Proofs.Discovery
import QueryPipe.Proofs.EditScripts
import QueryPipe.Proofs.FileWrites
import QueryPipe.Proofs.FilledTemplates
import QueryPipe.Proofs.Framing
import QueryPipe.Proofs.GrammarShape
import QueryPipe.Proofs.JoinedLines
import QueryPipe.Proofs.Layering
import QueryPipe.Proofs.Lexing
import QueryPipe.Proofs.LintRuns
import QueryPipe.Proofs.LiteralValue
import QueryPipe.Proofs.Locating
import QueryPipe.Proofs.Markers
import QueryPipe.Proofs.Meaning
import QueryPipe.Proofs.MovedEdits
import QueryPipe.Proofs.Nesting
import QueryPipe.Proofs.ParserAlteration
import QueryPipe.Proofs.PatchHunks
import QueryPipe.Proofs.PathOrder
import QueryPipe.Proofs.Previews
import QueryPipe.Proofs.Processing
import QueryPipe.Proofs.QueryLiterals
import QueryPipe.Proofs.QuotedValues
import QueryPipe.Proofs.Refilling
import QueryPipe.Proofs.Relexing
import QueryPipe.Proofs.Relocation
import QueryPipe.Proofs.Rereading
import QueryPipe.Proofs.RestoredTexts
import QueryPipe.Proofs.Restoring
import QueryPipe.Proofs.Rewriting
import QueryPipe.Proofs.RewrittenFiles
import QueryPipe.Proofs.RoundTrip
import QueryPipe.Proofs.RunWrites
import QueryPipe.Proofs.ScanCompleteness
import QueryPipe.Proofs.ScannedBytes
import QueryPipe.Proofs.SearchBounds
import QueryPipe.Proofs.Sentinels
import QueryPipe.Proofs.Simulation
import QueryPipe.Proofs.SiteVisits
import QueryPipe.Proofs.SourceDecoding
import QueryPipe.Proofs.Splicing
import QueryPipe.Proofs.Subtrees
import QueryPipe.Proofs.TokenReading
import QueryPipe.Proofs.TreeAlteration
import QueryPipe.Proofs.Trimming
import QueryPipe.Proofs.Unchanged
import QueryPipe.Proofs.UnifiedPatches
