import MysqlMetrics.Gtid
import MysqlMetrics.Metric.Sample
import MysqlMetrics.Server.RowSet
import MysqlMetrics.Server.Basic
import MysqlMetrics.Status.LogFile

/-!
# What a collector brings in

A collector reads rows from the front and sends samples as it goes. A fault ends it, and the samples
sent before the fault stay sent: the result is a `Harvest`, samples and perhaps a fault.

* `Harvest.andThen` goes on with a second harvest unless the first one ended in a fault.
* `Harvest.sequence` does so with a whole list.
-/

namespace MysqlMetrics

open MysqlMetrics.Text

/-- Why a collector gave up. -/
inductive CollectError where
  | query (error : QueryError)
  | unexpectedColumns (sql : String) (columns : List String)
  | columnCount (count : Nat)
  | logFile (error : LogFileError)
  | position (text : String) (cause : NumeralError)
  | transactions (command : String) (cause : GtidError)
  deriving DecidableEq, Repr

/-- The wording of a collector's fault. -/
def CollectError.message : CollectError → String
  | .query e => e.message
  | .unexpectedColumns sql columns =>
    "unexpected columns from " ++ sql ++ ": " ++ quotedList columns
  | .columnCount n => "invalid number of columns: " ++ toString n
  | .logFile e => e.message
  | .position text cause =>
    "invalid binlog position " ++ quoted text.toList ++ ": " ++ cause.message
  | .transactions command cause =>
    "invalid Executed_Gtid_Set in " ++ command ++ ": " ++ cause.message

/-- The samples sent, and the fault that ended it, if any. -/
structure Harvest where
  samples : List Sample
  fault : Option CollectError
  deriving DecidableEq

namespace Harvest

/-- Nothing sent and no fault. -/
def empty : Harvest := ⟨[], none⟩

/-- Samples without a fault. -/
def of (samples : List Sample) : Harvest := ⟨samples, none⟩

/-- A fault before any sample. -/
def failed (e : CollectError) : Harvest := ⟨[], some e⟩

/-- The first harvest, and the second one if the first has no fault. -/
def andThen (first second : Harvest) : Harvest :=
  match first.fault with
  | some _ => first
  | none => ⟨first.samples ++ second.samples, second.fault⟩

/-- Harvests one after another, up to the first fault. -/
def sequence : List Harvest → Harvest
  | [] => empty
  | h :: rest => h.andThen (sequence rest)

end Harvest

end MysqlMetrics
