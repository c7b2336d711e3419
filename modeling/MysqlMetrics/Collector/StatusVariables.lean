import MysqlMetrics.Collector.Harvest
import MysqlMetrics.Status.Value

/-!
# Status variables of the server

The server lists its status variables as rows of a name and a value. Every variable whose value can
be read becomes a metric without labels; the others, and rows with NULL, are passed over.
-/

namespace MysqlMetrics.StatusVariables

/-- The query for the status variables. -/
def sql : String := "SHOW GLOBAL STATUS"

/-- The subsystem in the metrics' names. -/
def subsystem : String := "global_status"

/-- The column of the variables' names. -/
def nameColumn : String := "Variable_name"

/-- The column of the variables' values. -/
def valueColumn : String := "Value"

/-- The metric of a status variable. -/
def descriptor (variableName : String) : Descriptor :=
  .of subsystem (String.ofList (Metric.namePart variableName.toList))
    "Generic metric from SHOW GLOBAL STATUS." []

/-- The sample of a row, if it names a variable with a value that can be read. -/
def sample? (row : Row) : Option Sample := do
  let name ← row.get? nameColumn
  let value ← row.get? valueColumn
  let x ← Status.value? value.toList
  return .of (descriptor name) .untyped x []

/-- The samples of all rows. Rows without the two columns are no list of status variables. -/
def harvest (rows : RowSet) : Harvest :=
  if rows.cells ≠ [] ∧ ¬(nameColumn ∈ rows.columns ∧ valueColumn ∈ rows.columns) then
    .failed (.unexpectedColumns sql rows.columns)
  else .of (rows.rows.filterMap sample?)

end MysqlMetrics.StatusVariables
