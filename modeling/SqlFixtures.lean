import SqlFixtures.Archive.Pack
import SqlFixtures.Bundled
import SqlFixtures.Corpus.Assertions
import SqlFixtures.Dialect.Declaration
import SqlFixtures.Loader.Run
import SqlFixtures.Logging.Line
import SqlFixtures.Proofs.Document.Cases
import SqlFixtures.Proofs.Keyed
import SqlFixtures.Proofs.Logging.Logged
import SqlFixtures.Proofs.Template.Literal
import SqlFixtures.Proofs.Corpus.Definitions
import SqlFixtures.Proofs.Corpus.LastDefinition
import SqlFixtures.Proofs.Loader.Caching
import SqlFixtures.Proofs.Files.Names
import SqlFixtures.Proofs.Files.Trees
import SqlFixtures.Proofs.Files.Order
import SqlFixtures.Proofs.Source.Directory
import SqlFixtures.Proofs.Source.Archive
import SqlFixtures.Proofs.Corpus.Documents
import SqlFixtures.Proofs.Corpus.Deployments
import SqlFixtures.Proofs.Corpus.StrictMode
import SqlFixtures.Proofs.Dialect.Names
import SqlFixtures.Proofs.Matrix.Expansion
import SqlFixtures.Proofs.Matrix.Repeats
import SqlFixtures.Proofs.Document.Format
import SqlFixtures.Proofs.Xml.Faults
import SqlFixtures.Proofs.Document.Failures
import SqlFixtures.Proofs.Logging.Sinks
import SqlFixtures.Proofs.Xml.Decoding
import SqlFixtures.Proofs.Xml.Tags
import SqlFixtures.Proofs.Xml.Namespace
import SqlFixtures.Proofs.Document.Writing
import SqlFixtures.Proofs.Document.RoundTrip
import SqlFixtures.Proofs.Corpus.Order
import SqlFixtures.Proofs.Corpus.PackedFiles
import SqlFixtures.Proofs.Files.Agreement
import SqlFixtures.Proofs.Files.Changes
import SqlFixtures.Proofs.Source.Agreement
import SqlFixtures.Proofs.Loader.Separation
import SqlFixtures.Proofs.Template.Matching
import SqlFixtures.Proofs.Matrix.Resolution
import SqlFixtures.Proofs.Document.AssertFormat
import SqlFixtures.Proofs.Corpus.AssertRows
import SqlFixtures.Proofs.Logging.Runs
import SqlFixtures.Proofs.Template.Variants
import SqlFixtures.Proofs.Source.Relocation
import SqlFixtures.Proofs.Corpus.ListedOnce
import SqlFixtures.Proofs.Template.Runs
import SqlFixtures.Proofs.Template.Parity
import SqlFixtures.Proofs.Source.Levels
import SqlFixtures.Proofs.Dialect.Joining
import SqlFixtures.Proofs.Matrix.TestIds
import SqlFixtures.Proofs.Matrix.Restriction
import SqlFixtures.Proofs.Template.Tokens
import SqlFixtures.Proofs.Document.Nodes
