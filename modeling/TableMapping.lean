import TableMapping.BitField
import TableMapping.Calendar.Clock
import TableMapping.Calendar.Date
import TableMapping.Calendar.Instant
import TableMapping.Calendar.Printer
import TableMapping.Calendar.Reader
import TableMapping.Column
import TableMapping.ColumnType
import TableMapping.CommandLine.Event
import TableMapping.CommandLine.Help
import TableMapping.CommandLine.Request
import TableMapping.CommandLine.Run
import TableMapping.CommandLine.Switch
import TableMapping.Document
import TableMapping.Document.Decoder
import TableMapping.Document.Lexeme
import TableMapping.Document.Outline
import TableMapping.Document.Printer
import TableMapping.Document.Quoted
import TableMapping.Document.Token
import TableMapping.Entity
import TableMapping.Flavor
import TableMapping.GeneratedMap
import TableMapping.Introspection.Catalog
import TableMapping.Introspection.LiveConversion
import TableMapping.Introspection.MemberList
import TableMapping.Keyed
import TableMapping.LiveColumn
import TableMapping.Main
import TableMapping.Model.ColumnFile
import TableMapping.Model.EntityFile
import TableMapping.Model.LiveFile
import TableMapping.Number.Binary64
import TableMapping.Number.Layout
import TableMapping.Number.Numeral
import TableMapping.Number.Power
import TableMapping.Number.Shortest
import TableMapping.Number.Width
import TableMapping.Options
import TableMapping.Quantity
import TableMapping.Query.Binding
import TableMapping.Query.Template
import TableMapping.Schema.CanonicalType
import TableMapping.Schema.DefaultClause
import TableMapping.Schema.Drift
import TableMapping.Schema.Sizes
import TableMapping.Schema.Timestamp
import TableMapping.TableName
import TableMapping.Text.Blank
import TableMapping.Text.Case
import TableMapping.Text.CaseTable
import TableMapping.Text.Digit
import TableMapping.Text.Search
import TableMapping.Text.Utf8
import TableMapping.Text.Word
import TableMapping.Text.WordTable
import TableMapping.Value
import TableMapping.Wire.Conversion
import TableMapping.Wire.Temporal
import TableMapping.Wire.Transformer
import TableMapping.Proofs.KeyedLists
import TableMapping.Proofs.Number.DigitRuns
import TableMapping.Proofs.Number.Numerals
import TableMapping.Proofs.Text.Splitting
import TableMapping.Proofs.Query.Segmentation
import TableMapping.Proofs.Wire.RoundTrip
import TableMapping.Proofs.Query.Alignment
import TableMapping.Proofs.Query.Isolation
import TableMapping.Proofs.Text.Occurrence
import TableMapping.Proofs.Introspection.MemberLists
import TableMapping.Proofs.Introspection.Uniqueness
import TableMapping.Proofs.Schema.Timestamps
import TableMapping.Proofs.Schema.Exactness
import TableMapping.Proofs.Introspection.ReportedDefaults
import TableMapping.Proofs.Introspection.ExtraTexts
import TableMapping.Proofs.Introspection.TypeWords
import TableMapping.Proofs.Introspection.TypeTexts
import TableMapping.Proofs.Introspection.FaithfulRows
import TableMapping.Proofs.Introspection.Convergence
import TableMapping.Proofs.Document.PrintedTokens
import TableMapping.Proofs.Document.ReadBack
import TableMapping.Proofs.Wire.DocumentColumns
import TableMapping.Proofs.Introspection.AttributeWords
import TableMapping.Proofs.Introspection.LiteralDefaults
import TableMapping.Proofs.Introspection.ReportedPrecision
import TableMapping.Proofs.Introspection.DeclaredSizes
import TableMapping.Proofs.Quantities
import TableMapping.Proofs.GeneratedMaps
import TableMapping.Proofs.ReturnedColumns
import TableMapping.Proofs.BatchIds
import TableMapping.Proofs.Schema.Locality
import TableMapping.Proofs.Query.BoundDocuments
import TableMapping.Proofs.Schema.Domains
import TableMapping.Proofs.Calendar.Fields
import TableMapping.Proofs.Calendar.LooseNotation
import TableMapping.Proofs.Calendar.StrictNotation
import TableMapping.Proofs.Calendar.WrittenForms
import TableMapping.Proofs.Wire.TemporalTexts
import TableMapping.Proofs.Document.Decoding
import TableMapping.Proofs.Model.ModelFiles
import TableMapping.Proofs.Schema.Rereading
import TableMapping.Proofs.Number.Truncation
import TableMapping.Proofs.Wire.ListColumns
import TableMapping.Proofs.Wire.MemberColumns
import TableMapping.Proofs.Wire.NumberColumns
import TableMapping.Proofs.Introspection.ReportedDomains
import TableMapping.Proofs.Number.NearestIntegers
import TableMapping.Proofs.Document.RecordEntries
import TableMapping.Proofs.Model.IntegerDefaults
import TableMapping.Proofs.Schema.Comments
import TableMapping.Proofs.Wire.Idempotence
import TableMapping.Proofs.Text.CaselessSearch
import TableMapping.Proofs.Introspection.UpdatePlaces
import TableMapping.Proofs.Query.Concatenation
import TableMapping.Proofs.Query.NativeOrder
import TableMapping.Proofs.Query.NamedParameters
import TableMapping.Proofs.Introspection.TypeSpellings
import TableMapping.Proofs.TableNames.Resolution
import TableMapping.Proofs.BitFields
import TableMapping.Proofs.Number.Spellings
import TableMapping.Proofs.TableNames.QuotedNames
import TableMapping.Proofs.Wire.IntegerTexts
import TableMapping.Proofs.PlainValues
import TableMapping.Proofs.Schema.Nullability
import TableMapping.Proofs.Schema.CanonicalTimestamps
import TableMapping.Proofs.Wire.TruthColumns
