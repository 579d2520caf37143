import PropertyStore.Binary64
import PropertyStore.Calendar
import PropertyStore.Codepage
import PropertyStore.CommandLine
import PropertyStore.CommandLine.Arguments
import PropertyStore.CommandLine.Command
import PropertyStore.CommandLine.Notice
import PropertyStore.CommandLine.Parameter
import PropertyStore.CommandLine.Settings
import PropertyStore.CommandLine.UsageError
import PropertyStore.CommandLine.Word
import PropertyStore.Cursor
import PropertyStore.Cursor.Family
import PropertyStore.Decimal.Shortest
import PropertyStore.DecodeError
import PropertyStore.DecodeOptions
import PropertyStore.Draft
import PropertyStore.Draft.Sample
import PropertyStore.Filetime
import PropertyStore.FormatClass
import PropertyStore.Guid
import PropertyStore.Json
import PropertyStore.LittleEndian
import PropertyStore.Main
import PropertyStore.Moment
import PropertyStore.PropertyName
import PropertyStore.PropertySet
import PropertyStore.PropertySet.Decode
import PropertyStore.ReadError
import PropertyStore.Record
import PropertyStore.Record.Decode
import PropertyStore.Record.Display
import PropertyStore.Record.Value
import PropertyStore.Report
import PropertyStore.Report.Document
import PropertyStore.Report.Lines
import PropertyStore.Report.Listing
import PropertyStore.Report.Selection
import PropertyStore.Signature
import PropertyStore.Source
import PropertyStore.Source.Device
import PropertyStore.Store.Decode
import PropertyStore.Store.FromSource
import PropertyStore.Store.Stream
import PropertyStore.Text.Blank
import PropertyStore.Text.ControlSequence
import PropertyStore.Text.Count
import PropertyStore.Text.Extender
import PropertyStore.Text.Hex
import PropertyStore.Text.Ignorable
import PropertyStore.Text.Numeral
import PropertyStore.Text.Printable
import PropertyStore.Text.Quoted
import PropertyStore.Text.Utf16
import PropertyStore.ValueType
import PropertyStore.Proofs.Cursor
import PropertyStore.Proofs.Grammar.Record
import PropertyStore.Proofs.Decode.Record
import PropertyStore.Proofs.Grammar.PropertySet
import PropertyStore.Proofs.Decode.PropertySet
import PropertyStore.Proofs.Decode.Store
import PropertyStore.Proofs.Decode.Source
import PropertyStore.Proofs.Decode.Stream
import PropertyStore.Proofs.Decode.FirstSet
import PropertyStore.Proofs.Decode.Cut
import PropertyStore.Proofs.Stream.LifeCycle
import PropertyStore.Proofs.Text.Utf16
import PropertyStore.Proofs.Draft
import PropertyStore.Proofs.Canonical
import PropertyStore.Proofs.Decode.Accounting
import PropertyStore.Proofs.Decode.Limit
import PropertyStore.Proofs.Skipped.Store
import PropertyStore.Proofs.Value.Reading
import PropertyStore.Proofs.Text.Utf8
import PropertyStore.Proofs.Value.Written
import PropertyStore.Proofs.Device.Fault
import PropertyStore.Proofs.Decode.Fault
import PropertyStore.Proofs.Stream.Fault
import PropertyStore.Proofs.Source
import PropertyStore.Proofs.Text.Surrogate
import PropertyStore.Proofs.Text.UpTo
import PropertyStore.Proofs.Codepage
import PropertyStore.Proofs.Value.WideText
import PropertyStore.Proofs.Value.NarrowText
import PropertyStore.Proofs.Calendar
import PropertyStore.Proofs.Moment
import PropertyStore.Proofs.Filetime
import PropertyStore.Proofs.Text.Visible
import PropertyStore.Proofs.Value.Display
import PropertyStore.Proofs.Text.Lines
import PropertyStore.Proofs.Report.Lines
import PropertyStore.Proofs.Guid
import PropertyStore.Proofs.Json.Grammar
import PropertyStore.Proofs.Json.Print
import PropertyStore.Proofs.Report.Document
import PropertyStore.Proofs.Report.Listing
import PropertyStore.Proofs.Value.Number
import PropertyStore.Proofs.Commands
import PropertyStore.Proofs.Cursor.Family
import PropertyStore.Proofs.Words.Checked
import PropertyStore.Proofs.Words.Cursor
import PropertyStore.Proofs.Words.Family
import PropertyStore.Proofs.Words.Record
import PropertyStore.Proofs.Words.PropertySet
import PropertyStore.Proofs.Words.Store
import PropertyStore.Proofs.Words.Source
import PropertyStore.Proofs.Words.Stream
import PropertyStore.Proofs.Words
