import MysqlMetrics.Text.Ranges
import MysqlMetrics.Text.Blank
import MysqlMetrics.Text.Digit
import MysqlMetrics.Text.Pieces
import MysqlMetrics.Text.Numeral
import MysqlMetrics.Text.Invisible
import MysqlMetrics.Text.Quoted
import MysqlMetrics.Text.Percent
import MysqlMetrics.Text.Terminal
import MysqlMetrics.Decimal.Binary
import MysqlMetrics.Decimal.Reader
import MysqlMetrics.Decimal.Shortest
import MysqlMetrics.Time.Duration
import MysqlMetrics.Time.Calendar
import MysqlMetrics.Time.Notation
import MysqlMetrics.Status.LogFile
import MysqlMetrics.Status.Value
import MysqlMetrics.Gtid
import MysqlMetrics.Version
import MysqlMetrics.Server.RowSet
import MysqlMetrics.Server.Basic
import MysqlMetrics.Server.Fetch
import MysqlMetrics.Metric.Name
import MysqlMetrics.Metric.Sample
import MysqlMetrics.Metric.Family
import MysqlMetrics.Metric.Exposition
import MysqlMetrics.Collector.Harvest
import MysqlMetrics.Collector.StatusVariables
import MysqlMetrics.Collector.BinaryLog
import MysqlMetrics.Collector.Replication
import MysqlMetrics.Collector.Accounts
import MysqlMetrics.Collector.Basic
import MysqlMetrics.Settings
import MysqlMetrics.Scrape.Basic
import MysqlMetrics.Monitor.Histogram
import MysqlMetrics.Monitor.Basic
import MysqlMetrics.Monitor.Session
import MysqlMetrics.Scrape.Exporter
import MysqlMetrics.Http.Target
import MysqlMetrics.Http
import MysqlMetrics.CommandLine.Options
import MysqlMetrics.CommandLine.Invocation
import MysqlMetrics.CommandLine.Reader
import MysqlMetrics.CommandLine.Help
import MysqlMetrics.Address
import MysqlMetrics.DataSource.Locator
import MysqlMetrics.DataSource.Basic
import MysqlMetrics.Http.Message
import MysqlMetrics.Launch
import MysqlMetrics.Main
import MysqlMetrics.Proofs.Checked
import MysqlMetrics.Proofs.Text.Cutting
import MysqlMetrics.Proofs.Text.Digits
import MysqlMetrics.Proofs.Gtid.Grammar
import MysqlMetrics.Proofs.Decimal.Rounding
import MysqlMetrics.Proofs.Decimal.Arithmetic
import MysqlMetrics.Proofs.Decimal.Notation
import MysqlMetrics.Proofs.Time.Notation
import MysqlMetrics.Proofs.Time.Grammar
import MysqlMetrics.Proofs.Time.Calendar
import MysqlMetrics.Proofs.Time.Seconds
import MysqlMetrics.Proofs.Status.LogFile
import MysqlMetrics.Proofs.Status.Number
import MysqlMetrics.Proofs.Status.Timestamp
import MysqlMetrics.Proofs.Status.Sequence
import MysqlMetrics.Proofs.Status.Readings
import MysqlMetrics.Proofs.Server.RowSet
import MysqlMetrics.Proofs.Metric.Grouping
import MysqlMetrics.Proofs.Metric.Series
import MysqlMetrics.Proofs.Metric.Labels
import MysqlMetrics.Proofs.Metric.Meaning
import MysqlMetrics.Proofs.Collector.Schema
import MysqlMetrics.Proofs.Collector.Queries
import MysqlMetrics.Proofs.Collector.Timing
import MysqlMetrics.Proofs.Collector.Fallback
import MysqlMetrics.Proofs.Collector.Replication
import MysqlMetrics.Proofs.Collector.Accounts
import MysqlMetrics.Proofs.Collector.StatusVariables
import MysqlMetrics.Proofs.Collector.BinaryLog
import MysqlMetrics.Proofs.Monitor.Records
import MysqlMetrics.Proofs.Version.Order
import MysqlMetrics.Proofs.Settings.Budget
import MysqlMetrics.Proofs.Scrape.Runs
import MysqlMetrics.Proofs.CommandLine.Switches
import MysqlMetrics.Proofs.Scrape.Arrival
import MysqlMetrics.Proofs.Scrape.Status
import MysqlMetrics.Proofs.Scrape.Page
import MysqlMetrics.Proofs.Scrape.Isolation
import MysqlMetrics.Proofs.Scrape.Lossless
import MysqlMetrics.Proofs.Scrape.Cycle
import MysqlMetrics.Proofs.Scrape.Clock
import MysqlMetrics.Proofs.Scrape.History
import MysqlMetrics.Proofs.Scrape.Order
import MysqlMetrics.Proofs.Scrape.Encoding
import MysqlMetrics.Proofs.Scrape.Deadline
import MysqlMetrics.Proofs.Scrape.Validity
import MysqlMetrics.Proofs.Scrape.Content
import MysqlMetrics.Proofs.Monitor.Timers
