import MysqlMetrics.Collector.Harvest

/-!
# Position in the binary log

The server reports the binary log file it writes to, its position in it and, in newer versions, the
transactions executed so far. The file and the position are sent together or not at all; so are the
first and the last transaction of every originating server. Only the last row counts.

* `position` is the first pair, `transactions` the second sequence of pairs.
-/

namespace MysqlMetrics.BinaryLog

open MysqlMetrics.Text

/-- The queries for the position; newer servers know only the second one. -/
def queries : List String := ["SHOW MASTER STATUS", "SHOW BINARY LOG STATUS"]

/-- The subsystem in the metrics' names. -/
def subsystem : String := "master_status"

/-- The number of the log file. -/
def fileNumber : Descriptor :=
  .of subsystem "binlog_file_num" "Sequence number of the binlog file in use." []

/-- The position in the log file. -/
def filePosition : Descriptor :=
  .of subsystem "binlog_pos" "Position in the binlog file in use." []

/-- The first transaction executed of a server. -/
def firstTransaction : Descriptor :=
  .of subsystem "executed_gtid_start" "First executed transaction per originating server."
    ["executed_server_id"]

/-- The last transaction executed of a server. -/
def lastTransaction : Descriptor :=
  .of subsystem "executed_gtid_end" "Last executed transaction per originating server."
    ["executed_server_id"]

/-- The text in a column of the last row; empty if there is no row, no such column or NULL. -/
def lastText (rows : RowSet) (column : String) : String :=
  (rows.rows.getLast?.bind (·.get? column)).getD ""

/-- The file's number and the position. Without a file the binary log is switched off. -/
def position (file offset : String) : Harvest :=
  if file = "" then .empty
  else
    match LogFile.number file.toList with
    | .error e => .failed (.logFile e)
    | .ok number =>
      match Natural.read maxNatural64 offset.toList with
      | .error cause => .failed (.position offset cause)
      | .ok pos =>
        .of [.of fileNumber .gauge (Decimal.ofNatural64 number) [],
          .of filePosition .gauge (Decimal.ofNatural64 pos) []]

/-- The first and the last transaction of a server. -/
def bounds (s : TransactionSet) : List Sample :=
  [.of firstTransaction .gauge (Decimal.ofNatural64 s.first) [s.server],
    .of lastTransaction .gauge (Decimal.ofNatural64 s.last) [s.server]]

/-- The bounds of every entry of a set of transactions; a blank text is no set. -/
def transactions (text : String) : Harvest :=
  if trim text.toList = [] then .empty
  else
    match Gtid.read text.toList with
    | .error cause => .failed (.transactions "SHOW MASTER STATUS" cause)
    | .ok sets => .of (sets.flatMap bounds)

/-- The samples of the last row. The command is known to answer with four or five columns. -/
def harvest (rows : RowSet) : Harvest :=
  if rows.cells ≠ [] ∧ ¬(rows.columns.length = 4 ∨ rows.columns.length = 5) then
    .failed (.columnCount rows.columns.length)
  else
    (position (lastText rows "File") (lastText rows "Position")).andThen
      (transactions (lastText rows "Executed_Gtid_Set"))

end MysqlMetrics.BinaryLog
