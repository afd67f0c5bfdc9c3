import TripQuery.Calendar.Date
import TripQuery.Calendar.Instant
import TripQuery.Calendar.Pattern
import TripQuery.Calendar.Reading
import TripQuery.Calendar.Text
import TripQuery.Calendar.TimeOfDay
import TripQuery.Calendar.Timestamp
import TripQuery.Criterion
import TripQuery.Decimal.Layout
import TripQuery.Decimal.Reading
import TripQuery.Decimal.Shortest
import TripQuery.Event
import TripQuery.Main
import TripQuery.Mode
import TripQuery.Numeral
import TripQuery.Param.Kind
import TripQuery.Param.Name
import TripQuery.Query.Basic
import TripQuery.Query.Decoding
import TripQuery.Recorded
import TripQuery.Route
import TripQuery.Search.Answer
import TripQuery.Search.Basic
import TripQuery.Search.Fault
import TripQuery.Search.Resolution
import TripQuery.Search.Weights
import TripQuery.Service.Endpoint
import TripQuery.Service.Settings
import TripQuery.Service.SocketAddress
import TripQuery.Text.Blank
import TripQuery.Text.CodePointSet
import TripQuery.Text.Cut
import TripQuery.Text.DefaultIgnorable
import TripQuery.Text.Front
import TripQuery.Text.GraphemeExtend
import TripQuery.Text.Printable
import TripQuery.Text.Quoted
import TripQuery.Wire.Document
import TripQuery.Wire.QueryString
import TripQuery.Wire.Status
import TripQuery.Wire.Utf8
import TripQuery.Proofs.Numerals
import TripQuery.Proofs.RealNumerals
import TripQuery.Proofs.ModeText
import TripQuery.Proofs.Text.Trimming
import TripQuery.Proofs.Calendar.Digits
import TripQuery.Proofs.Calendar.Neighbours
import TripQuery.Proofs.Calendar.Shift
import TripQuery.Proofs.RouteText
import TripQuery.Proofs.Calendar.TimestampText
import TripQuery.Proofs.Query.Denotation
import TripQuery.Proofs.Query.Decoding
import TripQuery.Proofs.Search.Assembly
import TripQuery.Proofs.Search.Precedence
import TripQuery.Proofs.Search.Counting
import TripQuery.Proofs.Calendar.Reading
import TripQuery.Proofs.Calendar.DateAndTime
import TripQuery.Proofs.Search.Resolved
import TripQuery.Proofs.Search.Resubmission
import TripQuery.Proofs.Journal
import TripQuery.Proofs.Search.Independence
import TripQuery.Proofs.Search.Joined
import TripQuery.Proofs.Service.Endpoints
import TripQuery.Proofs.Query.Ignored
import TripQuery.Proofs.Search.Noted
import TripQuery.Proofs.Double.Rounding
import TripQuery.Proofs.Service.SetJournal
import TripQuery.Proofs.Search.Balance
import TripQuery.Proofs.Search.Guarantees
import TripQuery.Proofs.Search.Rewriting
import TripQuery.Proofs.Search.Defaults
import TripQuery.Proofs.Query.Respelling
import TripQuery.Proofs.Search.Respelling
import TripQuery.Proofs.Calendar.DayCount
import TripQuery.Proofs.Calendar.Spelling
import TripQuery.Proofs.Calendar.TimestampSpelling
import TripQuery.Proofs.Calendar.OwnOffset
import TripQuery.Proofs.Calendar.Combination
import TripQuery.Proofs.Search.LoneTime
import TripQuery.Proofs.Calendar.DateSpelling
import TripQuery.Proofs.Calendar.Trial
import TripQuery.Proofs.Calendar.ClockSpelling
import TripQuery.Proofs.Calendar.DashedDate
import TripQuery.Proofs.Service.Settings
import TripQuery.Proofs.RouteList
import TripQuery.Proofs.ModeWords
import TripQuery.Proofs.Search.MissingSum
import TripQuery.Proofs.Search.PassedThrough
