import FacetedSearch.Base64Url
import FacetedSearch.Bookmark
import FacetedSearch.Bytes
import FacetedSearch.Cache
import FacetedSearch.Calendar.Date
import FacetedSearch.Calendar.DateText
import FacetedSearch.Calendar.Instant
import FacetedSearch.Calendar.Timestamp
import FacetedSearch.Cbor.Header
import FacetedSearch.Cbor.Reader
import FacetedSearch.CommandLine
import FacetedSearch.CommandLine.Help
import FacetedSearch.CommandLine.Report
import FacetedSearch.Decimal
import FacetedSearch.Decimal.Shortest
import FacetedSearch.Engine
import FacetedSearch.Engine.Answer
import FacetedSearch.Engine.Reply
import FacetedSearch.Filter
import FacetedSearch.Filter.Criterion
import FacetedSearch.Form
import FacetedSearch.Interchange
import FacetedSearch.Json.Document
import FacetedSearch.Json.Numeral
import FacetedSearch.Json.Reader
import FacetedSearch.Json.Record
import FacetedSearch.Json.Value
import FacetedSearch.Main
import FacetedSearch.Paging
import FacetedSearch.Query
import FacetedSearch.Query.Escape
import FacetedSearch.Registry
import FacetedSearch.Registry.Default
import FacetedSearch.Response
import FacetedSearch.Saturating
import FacetedSearch.Selection
import FacetedSearch.Session
import FacetedSearch.Session.Action
import FacetedSearch.Settings
import FacetedSearch.Sha256
import FacetedSearch.Table
import FacetedSearch.Text
import FacetedSearch.Text.CaseTable
import FacetedSearch.Text.Lowercase
import FacetedSearch.Text.Utf8
import FacetedSearch.Proofs.Session.Preparation
import FacetedSearch.Proofs.Cache
import FacetedSearch.Proofs.Session.Loading
import FacetedSearch.Proofs.Session.Transparency
import FacetedSearch.Proofs.Session.PageRange
import FacetedSearch.Proofs.Session.Chronicle
import FacetedSearch.Proofs.Session.Clearing
import FacetedSearch.Proofs.Session.Refusal
import FacetedSearch.Proofs.Session.Provenance
import FacetedSearch.Proofs.Session.IssueOrder
import FacetedSearch.Proofs.Text.Blank
import FacetedSearch.Proofs.Table
import FacetedSearch.Proofs.Selection
import FacetedSearch.Proofs.Session.Handover
import FacetedSearch.Proofs.Session.Coherence
import FacetedSearch.Proofs.Paging
import FacetedSearch.Proofs.Session.StableEngine
import FacetedSearch.Proofs.Query.Escape
import FacetedSearch.Proofs.Query.FacetGroups
import FacetedSearch.Proofs.Cbor.Header
import FacetedSearch.Proofs.Text.Utf8
import FacetedSearch.Proofs.Base64Url
import FacetedSearch.Proofs.Cbor.Reader
import FacetedSearch.Proofs.Bookmark.Binary
import FacetedSearch.Proofs.Bookmark.Token
import FacetedSearch.Proofs.Filter.TextClauses
import FacetedSearch.Proofs.Session.Aim
import FacetedSearch.Proofs.Session.Restoring
import FacetedSearch.Proofs.Session.Economy
import FacetedSearch.Proofs.Session.Observation
import FacetedSearch.Proofs.Session.Composition
import FacetedSearch.Proofs.CommandLine.PrintQuery
import FacetedSearch.Proofs.Query.Words
import FacetedSearch.Proofs.Filter.Words
import FacetedSearch.Proofs.Cache.History
import FacetedSearch.Proofs.Selection.Toggling
import FacetedSearch.Proofs.Query.ToggledTwice
import FacetedSearch.Proofs.Selection.Replacing
import FacetedSearch.Proofs.Paging.Moves
import FacetedSearch.Proofs.Paging.Partition
import FacetedSearch.Proofs.Filter.Building
import FacetedSearch.Proofs.Filter.Labels
import FacetedSearch.Proofs.Form.Collecting
import FacetedSearch.Proofs.Form.Rows
import FacetedSearch.Proofs.Registry
import FacetedSearch.Proofs.Decimal
import FacetedSearch.Proofs.Form.OwnRow
import FacetedSearch.Proofs.Calendar.DateText
import FacetedSearch.Proofs.Filter.DateTags
import FacetedSearch.Proofs.Text.Lowercase
import FacetedSearch.Proofs.Response.Finding
import FacetedSearch.Proofs.Engine.Counts
import FacetedSearch.Proofs.Calendar.DayNumber
import FacetedSearch.Proofs.Calendar.Timestamp
import FacetedSearch.Proofs.Engine.Flattening
import FacetedSearch.Proofs.Engine.Card
import FacetedSearch.Proofs.Calendar.IsoText
import FacetedSearch.Proofs.Json.Document
import FacetedSearch.Proofs.Json.Record
import FacetedSearch.Proofs.Json.ReadBack
import FacetedSearch.Proofs.Json.Admission
import FacetedSearch.Proofs.Settings
import FacetedSearch.Proofs.CommandLine.RowNumbers
import FacetedSearch.Proofs.Form.Edits
import FacetedSearch.Proofs.Query.Backslashes
import FacetedSearch.Proofs.Form.LabelledRows
