import ExportStream.Text.Ascii
import ExportStream.Text.Blank
import ExportStream.Text.Utf8
import ExportStream.Text.Quoted
import ExportStream.Decimal.Style
import ExportStream.Json.Basic
import ExportStream.Json.Printer
import ExportStream.Json.Reader
import ExportStream.Digest.ContentHash
import ExportStream.Time.Instant
import ExportStream.Token.Scanner
import ExportStream.Generation
import ExportStream.Fault.Failure
import ExportStream.Stream.Cursor
import ExportStream.Stream.Assembler
import ExportStream.Payload.Copier
import ExportStream.Record.Tombstone
import ExportStream.Record.Conflict
import ExportStream.Record.Identity
import ExportStream.Record.CompareExchange
import ExportStream.Record.IndexDefinition
import ExportStream.Record.LegacyAttachment
import ExportStream.Tally
import ExportStream.Options
import ExportStream.Record.Basic
import ExportStream.Session.Basic
import ExportStream.Session.Envelope
import ExportStream.Session.Reader
import ExportStream.Session.Import
import ExportStream.Log.Config
import ExportStream.Log.Filter
import ExportStream.Settings.Toml.Text
import ExportStream.Settings.Toml.Scalar
import ExportStream.Settings.Toml.Reader
import ExportStream.Settings.Basic
import ExportStream.CommandLine.Run
import ExportStream.Main
import ExportStream.Proofs.RoundTrip
import ExportStream.Proofs.SplitPoints
import ExportStream.Proofs.Truncation
import ExportStream.Proofs.Alignment
import ExportStream.Proofs.DroppedAttachments
import ExportStream.Proofs.SelectiveImports
import ExportStream.Proofs.Protocol
import ExportStream.Proofs.Counting
import ExportStream.Proofs.Operations
import ExportStream.Proofs.RetiredSections
import ExportStream.Proofs.Grammar
import ExportStream.Proofs.Bounds
import ExportStream.Proofs.Versions
import ExportStream.Proofs.Ranges
import ExportStream.Proofs.CompactTexts
import ExportStream.Proofs.SinkCalls
import ExportStream.Proofs.FailedReads
import ExportStream.Proofs.DocumentFrames
import ExportStream.Proofs.InPlace
import ExportStream.Proofs.Rejections
import ExportStream.Proofs.StandIns
import ExportStream.Proofs.EmbeddedValues
import ExportStream.Proofs.IdentityNumbers
import ExportStream.Proofs.Skipping
import ExportStream.Proofs.BracketCounts
import ExportStream.Proofs.ShownInput
import ExportStream.Proofs.RefusedPlaces
import ExportStream.Proofs.TrailingWindows
