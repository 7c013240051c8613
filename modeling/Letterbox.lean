import Letterbox.Address
import Letterbox.Analysis
import Letterbox.Archive
import Letterbox.Calendar
import Letterbox.Charset
import Letterbox.Charset.Chinese
import Letterbox.Charset.Japanese
import Letterbox.Charset.Machine
import Letterbox.Charset.Mail
import Letterbox.Charset.SingleByte
import Letterbox.Charset.Table.Big5
import Letterbox.Charset.Table.Gb18030
import Letterbox.Charset.Table.Gb18030Runs
import Letterbox.Charset.Table.Jis0208
import Letterbox.Charset.Table.Jis0212
import Letterbox.Charset.Table.KoreanHangul
import Letterbox.CommandLine.Argument
import Letterbox.CommandLine.Help
import Letterbox.CommandLine.Scan
import Letterbox.CommandLine.Settings
import Letterbox.Config
import Letterbox.Config.Json
import Letterbox.Criterion
import Letterbox.Criterion.Json
import Letterbox.Criterion.Query
import Letterbox.Criterion.Validity
import Letterbox.Disk
import Letterbox.Disk.Stored
import Letterbox.Document
import Letterbox.Entry
import Letterbox.Failure
import Letterbox.Field
import Letterbox.FileTree
import Letterbox.Flag
import Letterbox.Html.Body
import Letterbox.Html.Doctype
import Letterbox.Html.Draft
import Letterbox.Html.Drawing
import Letterbox.Html.Element
import Letterbox.Html.Estimate
import Letterbox.Html.Forest
import Letterbox.Html.Formatting
import Letterbox.Html.Layout
import Letterbox.Html.NamedCharacters
import Letterbox.Html.Node
import Letterbox.Html.Page
import Letterbox.Html.Piece
import Letterbox.Html.RawText
import Letterbox.Html.Reader
import Letterbox.Html.Reference
import Letterbox.Html.Row
import Letterbox.Html.Rule
import Letterbox.Html.Token
import Letterbox.Import
import Letterbox.Index
import Letterbox.Instant
import Letterbox.Instant.Text
import Letterbox.Json
import Letterbox.Json.Bounds
import Letterbox.Json.Reader
import Letterbox.Json.Writer
import Letterbox.Mailbox
import Letterbox.Main
import Letterbox.Mime.AddressList
import Letterbox.Mime.ContentType
import Letterbox.Mime.Date
import Letterbox.Mime.Event
import Letterbox.Mime.Header
import Letterbox.Mime.HeaderForm
import Letterbox.Mime.Part
import Letterbox.Mime.Transfer
import Letterbox.Mime.Value
import Letterbox.Mime.Word
import Letterbox.Program
import Letterbox.Proofs.Calls
import Letterbox.Proofs.CriterionMeaning
import Letterbox.Proofs.DateBounds
import Letterbox.Proofs.Deferral
import Letterbox.Proofs.DocumentKey
import Letterbox.Proofs.Interleaving
import Letterbox.Proofs.Ledger
import Letterbox.Proofs.Pairing
import Letterbox.Proofs.Refinement
import Letterbox.Proofs.SearchAnswer
import Letterbox.Proofs.Selection
import Letterbox.Proofs.TermRange
import Letterbox.Proofs.Traffic
import Letterbox.Proofs.UidList
import Letterbox.Query
import Letterbox.Schema
import Letterbox.Snapshot
import Letterbox.Text.Base64
import Letterbox.Text.Blank
import Letterbox.Text.LowerCase
import Letterbox.Text.LowerCase.Ranges
import Letterbox.Text.Order
import Letterbox.Text.Quoted
import Letterbox.Text.Sentence
import Letterbox.Text.Split
import Letterbox.Text.Unfold
import Letterbox.Text.Utf8
import Letterbox.Text.Width
import Letterbox.Text.Width.Ranges
import Letterbox.UidRange
import Letterbox.Proofs.QueryWindows
import Letterbox.Proofs.TokenPieces
import Letterbox.Proofs.LowerContext
import Letterbox.Proofs.Sentences
import Letterbox.Proofs.OneAnalysis
import Letterbox.Proofs.HeaderNames
import Letterbox.Proofs.SubstringSearch
import Letterbox.Proofs.FlagSearch
import Letterbox.Proofs.CalendarDays
import Letterbox.Proofs.DateOrder
import Letterbox.Proofs.FoundMessages
import Letterbox.Proofs.DateSearch
import Letterbox.Proofs.HeaderSearch
import Letterbox.Proofs.History
import Letterbox.Proofs.ImportOrder
import Letterbox.Proofs.Reopening
import Letterbox.Proofs.DecimalText
import Letterbox.Proofs.JsonText
import Letterbox.Proofs.InstantText
import Letterbox.Proofs.CriterionText
import Letterbox.Proofs.IntervalOption
import Letterbox.Proofs.IntervalLeftOut
import Letterbox.Proofs.CommitIntervals
import Letterbox.Proofs.ArchiveSplit
import Letterbox.Proofs.FailedCalls
import Letterbox.Proofs.TermBytes
import Letterbox.Proofs.SentencePlaces
import Letterbox.Proofs.TokenPlaces
import Letterbox.Proofs.ImportNumbers
import Letterbox.Proofs.CalendarUnits
import Letterbox.Proofs.JoinedTexts
import Letterbox.Proofs.FieldSearch
import Letterbox.Proofs.AddressSearch
import Letterbox.Proofs.FullTextSearch
import Letterbox.Proofs.WordRuns
import Letterbox.Proofs.UidStretches
import Letterbox.Proofs.CriterionValidity
import Letterbox.Proofs.KeyLookup
import Letterbox.Proofs.Trimming
import Letterbox.Proofs.Unfolding
import Letterbox.Proofs.FlagText
import Letterbox.Proofs.CaseStability
import Letterbox.Proofs.ImportAccounts
import Letterbox.Proofs.SchemaAgreement
import Letterbox.Proofs.EnclosedParts
import Letterbox.Proofs.Collecting
import Letterbox.Proofs.WindowCover
import Letterbox.Proofs.SentencePass
import Letterbox.Proofs.SentenceBounds
