import SensorBridge.Broker
import SensorBridge.Cache
import SensorBridge.Catalog
import SensorBridge.Catalog.Observed
import SensorBridge.Catalog.Pages
import SensorBridge.Change
import SensorBridge.Connector.Error
import SensorBridge.Connector.Handling
import SensorBridge.Connector.Ledger
import SensorBridge.Connector.Registration
import SensorBridge.Connector.Routine
import SensorBridge.Connector.Tasks
import SensorBridge.Decimal.Reading
import SensorBridge.Decimal.Shortest
import SensorBridge.Decimal.Unsigned
import SensorBridge.Json.Error
import SensorBridge.Json.Number
import SensorBridge.Json.Reader
import SensorBridge.Json.Record
import SensorBridge.Json.Skip
import SensorBridge.Json.Text
import SensorBridge.Json.Value
import SensorBridge.Measurement
import SensorBridge.Mqtt.Acks
import SensorBridge.Mqtt.EventLoop
import SensorBridge.Mqtt.Options
import SensorBridge.Mqtt.Session
import SensorBridge.Observer
import SensorBridge.Proofs.Abandonment
import SensorBridge.Proofs.Accounts
import SensorBridge.Proofs.Acknowledgments
import SensorBridge.Proofs.Alternation
import SensorBridge.Proofs.Applying
import SensorBridge.Proofs.Atomicity
import SensorBridge.Proofs.Audience
import SensorBridge.Proofs.Balance
import SensorBridge.Proofs.BaseValues
import SensorBridge.Proofs.Batches
import SensorBridge.Proofs.BrokerCalls
import SensorBridge.Proofs.CatalogChanges
import SensorBridge.Proofs.ClientNames
import SensorBridge.Proofs.Coherence
import SensorBridge.Proofs.Courses
import SensorBridge.Proofs.Deliveries
import SensorBridge.Proofs.Discipline
import SensorBridge.Proofs.Endurance
import SensorBridge.Proofs.Escapes
import SensorBridge.Proofs.Faults
import SensorBridge.Proofs.Filters
import SensorBridge.Proofs.Grips
import SensorBridge.Proofs.Interplay
import SensorBridge.Proofs.Invalidation
import SensorBridge.Proofs.Keys
import SensorBridge.Proofs.LedgerRuns
import SensorBridge.Proofs.LedgerViews
import SensorBridge.Proofs.Listings
import SensorBridge.Proofs.Mending
import SensorBridge.Proofs.Nesting
import SensorBridge.Proofs.Notification
import SensorBridge.Proofs.Operations
import SensorBridge.Proofs.Outages
import SensorBridge.Proofs.Paging
import SensorBridge.Proofs.Precedence
import SensorBridge.Proofs.Publication
import SensorBridge.Proofs.QueryText
import SensorBridge.Proofs.Receivers
import SensorBridge.Proofs.Recency
import SensorBridge.Proofs.Reconnection
import SensorBridge.Proofs.Records
import SensorBridge.Proofs.Refusal
import SensorBridge.Proofs.Replay
import SensorBridge.Proofs.Representation
import SensorBridge.Proofs.Resubscription
import SensorBridge.Proofs.RoundTrip
import SensorBridge.Proofs.Rounds
import SensorBridge.Proofs.Routing
import SensorBridge.Proofs.Runs
import SensorBridge.Proofs.Scalars
import SensorBridge.Proofs.Sections
import SensorBridge.Proofs.Service
import SensorBridge.Proofs.Snapshots
import SensorBridge.Proofs.Stages
import SensorBridge.Proofs.Standing
import SensorBridge.Proofs.Storing
import SensorBridge.Proofs.Sweeps
import SensorBridge.Proofs.Traffic
import SensorBridge.Proofs.Transparency
import SensorBridge.Proofs.UrlText
import SensorBridge.Proofs.Vacancy
import SensorBridge.Proofs.Verdicts
import SensorBridge.Proofs.Waiters
import SensorBridge.Proofs.Writes
import SensorBridge.Scenario.Machine
import SensorBridge.Scenario.Run
import SensorBridge.Scenario.Transport
import SensorBridge.Scenario.World
import SensorBridge.Senml
import SensorBridge.Settings
import SensorBridge.Settings.EnvFile
import SensorBridge.Settings.Environment
import SensorBridge.Sink
import SensorBridge.Source
import SensorBridge.Source.Json
import SensorBridge.Text.Alphanumeric
import SensorBridge.Text.Blank
import SensorBridge.Text.Direction
import SensorBridge.Text.Joining
import SensorBridge.Text.Mark
import SensorBridge.Text.Normal
import SensorBridge.Text.Numeral
import SensorBridge.Text.Pieces
import SensorBridge.Text.Printable
import SensorBridge.Text.Quoted
import SensorBridge.Text.Ranges
import SensorBridge.Text.Table
import SensorBridge.Text.Utf8
import SensorBridge.Topic
import SensorBridge.Url
import SensorBridge.Url.Address
import SensorBridge.Url.Domain
import SensorBridge.Url.Domain.Mapping
import SensorBridge.Url.Domain.Punycode
import SensorBridge.Url.Percent
import SensorBridge.Url.Query
