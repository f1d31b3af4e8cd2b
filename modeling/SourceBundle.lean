import SourceBundle.Main
import SourceBundle.Proofs.Backends
import SourceBundle.Proofs.CanonicalPaths
import SourceBundle.Proofs.CapturedLines
import SourceBundle.Proofs.CompilerWords
import SourceBundle.Proofs.Composition
import SourceBundle.Proofs.ConfigLayers
import SourceBundle.Proofs.ConfigRoundTrip
import SourceBundle.Proofs.DepthFirst
import SourceBundle.Proofs.Destinations
import SourceBundle.Proofs.EntryPoints
import SourceBundle.Proofs.FailedRuns
import SourceBundle.Proofs.Fallbacks
import SourceBundle.Proofs.IncludeCycles
import SourceBundle.Proofs.IncludeGraph
import SourceBundle.Proofs.IncludeStack
import SourceBundle.Proofs.InlineModes
import SourceBundle.Proofs.LetterCase
import SourceBundle.Proofs.LibraryOrder
import SourceBundle.Proofs.LineLocality
import SourceBundle.Proofs.LineNumbers
import SourceBundle.Proofs.NamedFiles
import SourceBundle.Proofs.Overrides
import SourceBundle.Proofs.PrintedConfig
import SourceBundle.Proofs.ResolvedTexts
import SourceBundle.Proofs.RunReports
import SourceBundle.Proofs.SecondBuild
import SourceBundle.Proofs.ShownCommands
import SourceBundle.Proofs.SinglePass
import SourceBundle.Proofs.StageOrder
import SourceBundle.Proofs.StartedCommands
import SourceBundle.Proofs.Terminators
