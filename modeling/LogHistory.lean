import LogHistory.Collect.Cycle
import LogHistory.LogObject.Script
import LogHistory.LogRecord.FailFast
import LogHistory.LogRecord.Normal
import LogHistory.NodeId.Grammar
import LogHistory.Proofs.Contribution
import LogHistory.Proofs.Coverage
import LogHistory.Proofs.Cursors
import LogHistory.Proofs.FirstFault
import LogHistory.Proofs.FixedPoints
import LogHistory.Proofs.Layouts
import LogHistory.Proofs.Paging
import LogHistory.Proofs.Quota
import LogHistory.Proofs.RecordRoundTrip
import LogHistory.Proofs.SelfDelimiting
import LogHistory.Proofs.Sites
import LogHistory.Proofs.StartOver
import LogHistory.Proofs.Takes
import LogHistory.Proofs.Ticks
import LogHistory.Proofs.Utf8
import LogHistory.Proofs.Isolation
import LogHistory.Proofs.Cancellation
import LogHistory.Proofs.Tokens
import LogHistory.Proofs.Spellings
import LogHistory.Proofs.TelemetryForms
import LogHistory.Proofs.DecoderTables
import LogHistory.Proofs.AttributeSections
import LogHistory.Proofs.Unwritable
import LogHistory.Proofs.EntryCounts
import LogHistory.Proofs.ExactFaults
import LogHistory.Proofs.TickCounts
import LogHistory.Proofs.IdentifierTexts
import LogHistory.Proofs.IdentifierForms
import LogHistory.Proofs.TraceSections
import LogHistory.Proofs.IdentifierGrammar
import LogHistory.Proofs.ScalarForms
import LogHistory.Proofs.Frames
import LogHistory.Proofs.Framing
import LogHistory.Proofs.Locales
import LogHistory.Proofs.AttributeOrder
import LogHistory.Proofs.HexTexts
import LogHistory.Proofs.Seeding
import LogHistory.Proofs.CursorRuns
import LogHistory.Proofs.SeverityFloors
import LogHistory.Proofs.QuotedTexts
import LogHistory.Proofs.RecordTexts
import LogHistory.Proofs.ReaderRuns
