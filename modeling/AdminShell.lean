import AdminShell.Text.Blank
import AdminShell.Reference.Key
import AdminShell.Reference.Chain
import AdminShell.Json.Node
import AdminShell.Number.Shortest
import AdminShell.Json.Print
import AdminShell.Json.Parse
import AdminShell.Text.Printable
import AdminShell.Text.Case
import AdminShell.Text.Letters
import AdminShell.Text.Quoted
import AdminShell.Json.Decode
import AdminShell.Literal.Datatype
import AdminShell.Number.Nearest
import AdminShell.Number.Arith
import AdminShell.Number.Read
import AdminShell.Literal.Integer
import AdminShell.Literal.Decimal
import AdminShell.Literal.Temporal
import AdminShell.Literal.Uri
import AdminShell.Literal.Base64
import AdminShell.Literal.Check
import AdminShell.Literal.Typed
import AdminShell.Json.Normal
import AdminShell.Reference.Basic
import AdminShell.Model.Kind
import AdminShell.Model.Error
import AdminShell.Model.Types
import AdminShell.Reference.Codec
import AdminShell.Model.Decode.Attrs
import AdminShell.Model.Decode.Element
import AdminShell.Model.Decode.Identifiable
import AdminShell.Model.Validate
import AdminShell.Model.Encode
import AdminShell.Model.Export
import AdminShell.Model.Document
import AdminShell.Model.ElementList
import AdminShell.Number.Double
import AdminShell.Files.Path
import AdminShell.Files.Tree
import AdminShell.Files.System
import AdminShell.Settings.Basic
import AdminShell.Batch.Walk
import AdminShell.Batch.Report
import AdminShell.Settings.Codec
import AdminShell.Toml.Value
import AdminShell.Toml.Write
import AdminShell.Toml.Cursor
import AdminShell.Toml.Strings
import AdminShell.Toml.Numbers
import AdminShell.Toml.Read
import AdminShell.Number.Plain
import AdminShell.Settings.Toml
import AdminShell.Ini.Read
import AdminShell.Ron.Read
import AdminShell.Json5.Read
import AdminShell.Yaml.Scan
import AdminShell.Yaml.Parse
import AdminShell.Yaml.Load
import AdminShell.Settings.Sourced
import AdminShell.Settings.Typed
import AdminShell.Settings.Formats
import AdminShell.Settings.Load
import AdminShell.Text.Jaro
import AdminShell.Cli.Grammar
import AdminShell.Cli.Help
import AdminShell.Cli.Parse
import AdminShell.Cli.App
import AdminShell.Cli.Run
import AdminShell.Batch.Stamp
import AdminShell.Main
import AdminShell.Proofs.ChainGrammar
import AdminShell.Proofs.ReferenceCodec
import AdminShell.Proofs.DateTime
import AdminShell.Proofs.TypedCoercion
import AdminShell.Proofs.Checks
import AdminShell.Proofs.ListGrowth
import AdminShell.Proofs.ChainErrors
import AdminShell.Proofs.LocalRules
import AdminShell.Proofs.JsonText
import AdminShell.Proofs.FieldOrder
import AdminShell.Proofs.AttrsCodec
import AdminShell.Proofs.ElementCodec
import AdminShell.Proofs.EntityCodec
import AdminShell.Proofs.PlainExport
import AdminShell.Proofs.Numerals
import AdminShell.Proofs.IntegerLiterals
import AdminShell.Proofs.TemporalGrammar
import AdminShell.Proofs.TemporalRendering
import AdminShell.Proofs.TypedExport
import AdminShell.Proofs.Nanoseconds
import AdminShell.Proofs.UncheckedCoercion
import AdminShell.Proofs.UriReference
import AdminShell.Proofs.TreePaths
import AdminShell.Proofs.BatchReports
