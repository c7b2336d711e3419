import MysqlMetrics.Collector.Harvest
import MysqlMetrics.Status.Value

/-!
# State of replication

The server reports one row for each source it replicates from. A row is read column by column: some
columns name the source and become labels of all samples of the row, the columns of log files give
the number of the file, the set of executed transactions gives the bounds of every entry, and any
other column is a status value. A malformed log file or set of transactions ends the reading.

* `Context` is the source of a row, `cell` the samples of one column.
* `harvest` reads all rows in order.
-/

namespace MysqlMetrics.Replication

open MysqlMetrics.Text

/-- The queries for the state, from the one that lists all sources to the newest name. -/
def queries : List String :=
  ["SHOW ALL SLAVES STATUS", "SHOW SLAVE STATUS", "SHOW REPLICA STATUS"]

/-- Suffixes that keep the query from waiting for locks; a server knows one of them at most. -/
def suffixes : List String := [" NONBLOCKING", " NOLOCK", ""]

/-- The subsystem in the metrics' names. -/
def subsystem : String := "slave_status"

/-- The labels of every sample. -/
def labelNames : List String := ["master_host", "master_uuid", "channel_name", "connection_name"]

/-- The label of a transaction's originating server. -/
def serverLabel : String := "executed_server_id"

/-- The columns that name a source. -/
def labelColumns : List String :=
  ["Master_Host", "Source_Host", "Master_UUID", "Source_UUID", "Channel_Name", "Connection_name"]

/-- The columns of log files on the source. -/
def logFileColumns : List String :=
  ["Master_Log_File", "Relay_Master_Log_File", "Source_Log_File", "Relay_Source_Log_File"]

/-- The column of the executed transactions. -/
def transactionsColumn : String := "Executed_Gtid_Set"

/-- The metric of a status column. -/
def status (column : String) : Descriptor :=
  .of subsystem (String.ofList (Metric.namePart column.toList))
    "Generic metric from SHOW SLAVE STATUS." labelNames

/-- The metric of a log file column. -/
def fileNumber (column : String) : Descriptor :=
  .of subsystem (String.ofList (Metric.namePart column.toList) ++ "_num")
    "Receive master log file num from SHOW SLAVE STATUS." labelNames

/-- The first transaction executed of a server. -/
def firstTransaction : Descriptor :=
  .of subsystem "executed_gtid_set_start" "Executed GTID from SHOW SLAVE STATUS."
    (labelNames ++ [serverLabel])

/-- The last transaction executed of a server. -/
def lastTransaction : Descriptor :=
  .of subsystem "executed_gtid_set_end" "Executed GTID from SHOW SLAVE STATUS."
    (labelNames ++ [serverLabel])

/-- The source that a row is about. -/
structure Context where
  host : String
  uuid : String
  channel : String
  connection : String
  deriving DecidableEq, Repr

namespace Context

/-- The source of a row: for each label the first column with a value, or the empty text. -/
def of (row : Row) : Context where
  host := row.getOrEmpty ["Master_Host", "Source_Host"]
  uuid := row.getOrEmpty ["Master_UUID", "Source_UUID"]
  channel := row.getOrEmpty ["Channel_Name"]
  connection := row.getOrEmpty ["Connection_name"]

/-- The values of the labels. -/
def labels (c : Context) : List String := [c.host, c.uuid, c.channel, c.connection]

end Context

/-- The first and the last transaction of a server. -/
def bounds (context : Context) (s : TransactionSet) : List Sample :=
  [.of firstTransaction .gauge (Decimal.ofNatural64 s.first) (context.labels ++ [s.server]),
    .of lastTransaction .gauge (Decimal.ofNatural64 s.last) (context.labels ++ [s.server])]

/-- The bounds of every entry of a set of transactions; a blank text is no set. -/
def transactions (context : Context) (text : String) : Harvest :=
  if trim text.toList = [] then .empty
  else
    match Gtid.read text.toList with
    | .error cause => .failed (.transactions "SHOW SLAVE STATUS" cause)
    | .ok sets => .of (sets.flatMap (bounds context))

/-- The number of a log file; an empty text is no file yet. -/
def logFile (context : Context) (column text : String) : Harvest :=
  if text = "" then .empty
  else
    match LogFile.number text.toList with
    | .error e => .failed (.logFile e)
    | .ok n => .of [.of (fileNumber column) .untyped (Decimal.ofNatural64 n) context.labels]

/-- The sample of a status column, if its value can be read. -/
def statusValue (context : Context) (column text : String) : Harvest :=
  match Status.value? text.toList with
  | some x => .of [.of (status column) .untyped x context.labels]
  | none => .empty

/-- The samples of one column of a row; NULL reads as the empty text. -/
def cell (context : Context) (column : String) (value : Option String) : Harvest :=
  if column ∈ labelColumns then .empty
  else if column = transactionsColumn then transactions context (value.getD "")
  else if column ∈ logFileColumns then logFile context column (value.getD "")
  else statusValue context column (value.getD "")

/-- The samples of a row, column by column. -/
def row (row : Row) : Harvest :=
  .sequence (row.pairs.map fun (column, value) => cell (.of row) column value)

/-- The samples of all rows. -/
def harvest (rows : RowSet) : Harvest := .sequence (rows.rows.map row)

end MysqlMetrics.Replication
