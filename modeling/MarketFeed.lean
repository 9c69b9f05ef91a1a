import MarketFeed.Calendar.Date
import MarketFeed.Calendar.Reader
import MarketFeed.Calendar.Timestamp
import MarketFeed.Client.Basic
import MarketFeed.Client.Fault
import MarketFeed.Client.Journal
import MarketFeed.Client.Reading
import MarketFeed.Client.Run
import MarketFeed.Client.Worker
import MarketFeed.Config.Basic
import MarketFeed.Decimal.Basic
import MarketFeed.Decimal.Reader
import MarketFeed.Double.Basic
import MarketFeed.Double.Shortest
import MarketFeed.Double.Text
import MarketFeed.Envelope.Basic
import MarketFeed.Envelope.Decode
import MarketFeed.Envelope.Payload
import MarketFeed.Envelope.Written
import MarketFeed.Json.Printer
import MarketFeed.Json.Reader
import MarketFeed.Json.Scanner
import MarketFeed.Json.Value
import MarketFeed.Market.Balance
import MarketFeed.Market.Book
import MarketFeed.Market.Id
import MarketFeed.Market.Message
import MarketFeed.Market.Order
import MarketFeed.Market.Topic
import MarketFeed.Market.Trade
import MarketFeed.Market.Vocabulary
import MarketFeed.Observer.Basic
import MarketFeed.Observer.Line
import MarketFeed.Schema.Choice
import MarketFeed.Schema.Codec
import MarketFeed.Schema.Mismatch
import MarketFeed.Schema.Record
import MarketFeed.Session.Backoff
import MarketFeed.Session.ConnectionState
import MarketFeed.Session.Fault
import MarketFeed.Session.PendingAcks
import MarketFeed.Session.Registry
import MarketFeed.Simulation.Answer
import MarketFeed.Simulation.Gate
import MarketFeed.Simulation.Move
import MarketFeed.Simulation.Script
import MarketFeed.Simulation.Timeline
import MarketFeed.Simulation.World
import MarketFeed.Stream.Lane
import MarketFeed.Stream.Search
import MarketFeed.Stream.Split
import MarketFeed.Text.Canonical
import MarketFeed.Text.CanonicalData
import MarketFeed.Text.Printable
import MarketFeed.Text.Quoted
import MarketFeed.Text.Space
import MarketFeed.Text.Table
import MarketFeed.Time.Duration
import MarketFeed.Time.Instant
import MarketFeed.Url.Address
import MarketFeed.Url.Basic
import MarketFeed.Url.Direction
import MarketFeed.Url.Domain
import MarketFeed.Url.Joining
import MarketFeed.Url.Mapping
import MarketFeed.Url.MappingData
import MarketFeed.Url.Percent
import MarketFeed.Url.Punycode
import MarketFeed.Url.Reader
import MarketFeed.Url.ScriptData
import MarketFeed.Proofs.History
import MarketFeed.Proofs.Core
import MarketFeed.Proofs.Moves
import MarketFeed.Proofs.WireOrder
import MarketFeed.Proofs.Convergence
import MarketFeed.Proofs.AckAccounting
import MarketFeed.Proofs.Directives
import MarketFeed.Proofs.Deeds
import MarketFeed.Proofs.Timers
import MarketFeed.Proofs.Lifecycle
import MarketFeed.Proofs.Closing
import MarketFeed.Proofs.Survival
import MarketFeed.Proofs.StreamHistory
import MarketFeed.Proofs.Subscriptions
import MarketFeed.Proofs.Delays
import MarketFeed.Proofs.Silence
import MarketFeed.Proofs.Rounding
import MarketFeed.Proofs.Desertion
import MarketFeed.Proofs.Classification
import MarketFeed.Proofs.DocumentText
import MarketFeed.Proofs.Numerals
import MarketFeed.Proofs.Decimals
import MarketFeed.Proofs.CivilDates
import MarketFeed.Proofs.Moments
import MarketFeed.Proofs.Records
import MarketFeed.Proofs.MarketRecords
import MarketFeed.Proofs.Frames
import MarketFeed.Proofs.MessageText
import MarketFeed.Proofs.RecordText
import MarketFeed.Proofs.Refusals
import MarketFeed.Proofs.Leftovers
import MarketFeed.Proofs.GivingUp
import MarketFeed.Proofs.DecodeFailures
import MarketFeed.Proofs.Patience
import MarketFeed.Proofs.Searches
import MarketFeed.Proofs.Events
import MarketFeed.Proofs.Cuts
import MarketFeed.Proofs.Percent
import MarketFeed.Proofs.Forms
import MarketFeed.Proofs.Paths
import MarketFeed.Proofs.Punycode
import MarketFeed.Proofs.AsciiText
import MarketFeed.Proofs.Domains
import MarketFeed.Proofs.NumericHosts
import MarketFeed.Proofs.Hosts
import MarketFeed.Proofs.Addresses
import MarketFeed.Proofs.Endpoints
import MarketFeed.Proofs.Outstanding
import MarketFeed.Proofs.DelayBounds
import MarketFeed.Proofs.Schedules
import MarketFeed.Proofs.Copies
import MarketFeed.Proofs.Shares
import MarketFeed.Proofs.Presence
