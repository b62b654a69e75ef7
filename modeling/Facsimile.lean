import Facsimile.Command.Arguments
import Facsimile.Command.Execute
import Facsimile.Command.Log
import Facsimile.Command.World
import Facsimile.Config
import Facsimile.ConfigFile
import Facsimile.Decimal.Binary64
import Facsimile.Decimal.Shortest
import Facsimile.Delivery
import Facsimile.Emission.Block
import Facsimile.Emission.Draft
import Facsimile.Emission.Emitter
import Facsimile.Event
import Facsimile.Hierarchy
import Facsimile.Json.Decode
import Facsimile.Json.Doc
import Facsimile.Json.Number
import Facsimile.Json.Reader
import Facsimile.Json.Record
import Facsimile.Json.Token
import Facsimile.Json.Value
import Facsimile.Main
import Facsimile.Model.Basic
import Facsimile.Model.Decode
import Facsimile.Model.Encode
import Facsimile.Naming.Convert
import Facsimile.Naming.FileName
import Facsimile.Naming.Reserved
import Facsimile.Pass.Generator
import Facsimile.Pass.Grouping
import Facsimile.Pass.Piece
import Facsimile.Pass.Report
import Facsimile.Proofs.AcceptedSettings
import Facsimile.Proofs.AddedDeclaration
import Facsimile.Proofs.BareModels
import Facsimile.Proofs.BuiltDeclarations
import Facsimile.Proofs.ByteOrder
import Facsimile.Proofs.CamelCase
import Facsimile.Proofs.CodeLines
import Facsimile.Proofs.Containment
import Facsimile.Proofs.Deliveries
import Facsimile.Proofs.DiscoveryOrder
import Facsimile.Proofs.Disks
import Facsimile.Proofs.DocLines
import Facsimile.Proofs.DryRun
import Facsimile.Proofs.FileNames
import Facsimile.Proofs.FirstAnnotation
import Facsimile.Proofs.Grouping
import Facsimile.Proofs.Hierarchies
import Facsimile.Proofs.JsonText
import Facsimile.Proofs.Literal
import Facsimile.Proofs.ModelText
import Facsimile.Proofs.ModuleIndex
import Facsimile.Proofs.NameOrder
import Facsimile.Proofs.Namesakes
import Facsimile.Proofs.Passages
import Facsimile.Proofs.Paths
import Facsimile.Proofs.Placement
import Facsimile.Proofs.RawIdentifiers
import Facsimile.Proofs.RawRejection
import Facsimile.Proofs.RecordSpellings
import Facsimile.Proofs.References
import Facsimile.Proofs.Refusal
import Facsimile.Proofs.Registry
import Facsimile.Proofs.ReservedModules
import Facsimile.Proofs.ReservedNames
import Facsimile.Proofs.SettingsCheck
import Facsimile.Proofs.Sheets
import Facsimile.Proofs.SnakeCase
import Facsimile.Proofs.Spellings
import Facsimile.Proofs.Templates
import Facsimile.Proofs.TypeOutlines
import Facsimile.Proofs.TypeWarnings
import Facsimile.Proofs.Underscores
import Facsimile.Proofs.VariantNames
import Facsimile.Proofs.WireNames
import Facsimile.Proofs.WriterRuns
import Facsimile.Resolver
import Facsimile.Sorted
import Facsimile.Storage.Disk
import Facsimile.Storage.FileSystem
import Facsimile.Storage.IoError
import Facsimile.Storage.Path
import Facsimile.Text.Blank
import Facsimile.Text.Case
import Facsimile.Text.Case.Table
import Facsimile.Text.CharRange
import Facsimile.Text.Digits
import Facsimile.Text.Extend
import Facsimile.Text.Quoted
import Facsimile.Text.Split
import Facsimile.Text.Unseen
import Facsimile.Toml.Reader
import Facsimile.Toml.Scalar
import Facsimile.Toml.Scan
import Facsimile.Toml.Value
import Facsimile.TypeText
