import MarketDesk.Provider.Canned
import MarketDesk.Session
import MarketDesk.Settings.EnvFile
import MarketDesk.Yahoo.Client
import MarketDesk.Proofs.Desk.Acquire
import MarketDesk.Proofs.Desk.EventLog
import MarketDesk.Proofs.Blame
import MarketDesk.Proofs.Yahoo.Blame
import MarketDesk.Proofs.Http.Paths
import MarketDesk.Proofs.Http.Statuses
import MarketDesk.Proofs.Text.Utf8
import MarketDesk.Proofs.Url.Form
import MarketDesk.Proofs.Yahoo.Exchange
import MarketDesk.Proofs.Yahoo.SessionProtocol
import MarketDesk.Proofs.Yahoo.SymbolUrl
import MarketDesk.Proofs.Yahoo.SymbolContainment
import MarketDesk.Proofs.Calendar.DayCount
import MarketDesk.Proofs.Frame.RoundTrip
import MarketDesk.Proofs.Frame.Reading
import MarketDesk.Proofs.Frame.Breakdown
import MarketDesk.Proofs.StableSort
import MarketDesk.Proofs.Yahoo.PriceHistory
import MarketDesk.Proofs.Text.Spelling
import MarketDesk.Proofs.Text.Escapes
import MarketDesk.Proofs.Desk.Inquiry
import MarketDesk.Proofs.Http.Fetches
import MarketDesk.Proofs.Http.Offences
import MarketDesk.Proofs.Session.Moments
import MarketDesk.Proofs.Session.Accounting
import MarketDesk.Proofs.Session.Deeds
import MarketDesk.Proofs.Session.Purging
import MarketDesk.Proofs.Session.Openings
import MarketDesk.Proofs.Yahoo.DividendAge
import MarketDesk.Proofs.Session.Observing
import MarketDesk.Proofs.Desk.Fetching
import MarketDesk.Proofs.Yahoo.ChartTrace
import MarketDesk.Proofs.Http.UpstreamErrors
import MarketDesk.Proofs.Desk.DividendViews
import MarketDesk.Proofs.Yahoo.EventOrder
import MarketDesk.Proofs.Session.Isolation
import MarketDesk.Proofs.Session.Footprint
import MarketDesk.Proofs.Json.KeyOrder
import MarketDesk.Proofs.Yahoo.Flattening
import MarketDesk.Proofs.Session.SymbolEntry
import MarketDesk.Proofs.Calendar.DateText
import MarketDesk.Proofs.Json.Strings
import MarketDesk.Proofs.Quote.Earnings
import MarketDesk.Proofs.Url.Segments
import MarketDesk.Proofs.Desk.DayByDay
import MarketDesk.Proofs.Yahoo.Classification
import MarketDesk.Proofs.Desk.Payouts
import MarketDesk.Proofs.Quote.EarningsDay
import MarketDesk.Proofs.Http.Caching
import MarketDesk.Proofs.Json.Documents
import MarketDesk.Proofs.Http.ErrorBodies
import MarketDesk.Proofs.Decimal.Nearest
import MarketDesk.Proofs.Quote.Appraisal
import MarketDesk.Proofs.Yahoo.Nulls
import MarketDesk.Proofs.Desk.Freshness
import MarketDesk.Proofs.Desk.EmptySeries
import MarketDesk.Proofs.Text.Trimming
import MarketDesk.Proofs.Settings.Loading
import MarketDesk.Proofs.Settings.Binding
import MarketDesk.Proofs.Yahoo.LocalDays
