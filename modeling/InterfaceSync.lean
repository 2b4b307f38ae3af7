import InterfaceSync.Attribute
import InterfaceSync.Catalogue
import InterfaceSync.CommandLine.Invocation
import InterfaceSync.CommandLine.Level
import InterfaceSync.CommandLine.Parameter
import InterfaceSync.CommandLine.Reading
import InterfaceSync.Commands
import InterfaceSync.Commands.Info
import InterfaceSync.Commands.Init
import InterfaceSync.Data.Datum
import InterfaceSync.Data.Format
import InterfaceSync.Data.Json.Reader
import InterfaceSync.Data.Json.Writer
import InterfaceSync.Data.Toml.Key
import InterfaceSync.Data.Toml.Moment
import InterfaceSync.Data.Toml.Quotation
import InterfaceSync.Data.Toml.Reader
import InterfaceSync.Data.Toml.Scalar
import InterfaceSync.Data.Toml.Table
import InterfaceSync.Declaration
import InterfaceSync.Document
import InterfaceSync.Environment
import InterfaceSync.Environment.File
import InterfaceSync.Event
import InterfaceSync.Fault
import InterfaceSync.Files.FileTree
import InterfaceSync.Files.Path
import InterfaceSync.Main
import InterfaceSync.Manifest
import InterfaceSync.Naming
import InterfaceSync.Proofs.Declaration
import InterfaceSync.Proofs.Document
import InterfaceSync.Proofs.Erasure
import InterfaceSync.Proofs.FieldLine
import InterfaceSync.Proofs.Files.Growth
import InterfaceSync.Proofs.Heading
import InterfaceSync.Proofs.Lines
import InterfaceSync.Proofs.Outline
import InterfaceSync.Proofs.PlainHeading
import InterfaceSync.Proofs.Reconcile.Repetition
import InterfaceSync.Proofs.Reconcile.Scan
import InterfaceSync.Proofs.Reconcile.Specification
import InterfaceSync.Proofs.Refinement
import InterfaceSync.Proofs.Session
import InterfaceSync.Proofs.Spans
import InterfaceSync.Reconcile
import InterfaceSync.Reconcile.FieldLine
import InterfaceSync.Reconcile.Heading
import InterfaceSync.Schema.Decode
import InterfaceSync.Schema.FieldType
import InterfaceSync.Schema.Model
import InterfaceSync.Schema.Required
import InterfaceSync.Settings
import InterfaceSync.Settings.Load
import InterfaceSync.Settings.Reference
import InterfaceSync.Settings.Search
import InterfaceSync.Syncer
import InterfaceSync.Text.Blank
import InterfaceSync.Text.CharRanges
import InterfaceSync.Text.Grapheme
import InterfaceSync.Text.Grapheme.BreakClass
import InterfaceSync.Text.HexDigit
import InterfaceSync.Text.LetterCase
import InterfaceSync.Text.Lines
import InterfaceSync.Text.Pieces
import InterfaceSync.Text.Quoted
import InterfaceSync.Text.Replace
import InterfaceSync.Text.WordChar
import InterfaceSync.Workspace
import InterfaceSync.Proofs.Reconcile.Independence
import InterfaceSync.Proofs.Synchronisation
import InterfaceSync.Proofs.Atomicity
import InterfaceSync.Proofs.Interruption
import InterfaceSync.Proofs.Naming
import InterfaceSync.Proofs.Spelling
import InterfaceSync.Proofs.Naming.VisibleWords
import InterfaceSync.Proofs.SharedInterface
import InterfaceSync.Proofs.Reconcile.OwnInterface
import InterfaceSync.Proofs.Reconcile.Appending
import InterfaceSync.Proofs.Schema.KindName
import InterfaceSync.Proofs.Schema.WrittenBack
import InterfaceSync.Proofs.ByteOrder
import InterfaceSync.Proofs.Catalogue
import InterfaceSync.Proofs.Reporting
import InterfaceSync.Proofs.Settings.Substitution
import InterfaceSync.Proofs.Reconcile.Locality
import InterfaceSync.Proofs.Naming.RoundTrip
import InterfaceSync.Proofs.Trimming
import InterfaceSync.Proofs.Attribute
import InterfaceSync.Proofs.Settings.Unresolved
import InterfaceSync.Proofs.Settings.Overriding
import InterfaceSync.Proofs.Manifest
import InterfaceSync.Proofs.Reconcile.Requirements
import InterfaceSync.Proofs.Initialisation
