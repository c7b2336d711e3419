import MysqlMetrics.Collector.Harvest
import MysqlMetrics.Status.Value

/-!
# Accounts

The server keeps one row for each account, with a flag for each privilege and limits on the use of
resources. Both become metrics labelled with the account; every other column, passwords above all,
is not looked at. Column names are compared without regard to case.
-/

namespace MysqlMetrics.Accounts

/-- The query for the accounts. -/
def sql : String := "SELECT * FROM mysql.user"

/-- The subsystem in the metrics' names. -/
def subsystem : String := "user"

/-- The labels of every sample. -/
def labelNames : List String := ["user", "host"]

/-- The columns of limits, in lower case. -/
def limitColumns : List String :=
  ["max_questions", "max_updates", "max_connections", "max_user_connections"]

/-- How the name of a privilege column ends, in lower case. -/
def privilegeEnding : List Char := ['_', 'p', 'r', 'i', 'v']

/-- A column's name in lower case. -/
def lowered (column : String) : List Char := column.toList.map Char.toLower

/-- The column holds the flag of a privilege. -/
def isPrivilege (column : String) : Bool := privilegeEnding.isSuffixOf (lowered column)

/-- The column holds a limit. -/
def isLimit (column : String) : Bool := decide (String.ofList (lowered column) ∈ limitColumns)

/-- The value of a column that is exported. -/
def value? (column text : String) : Option Float :=
  if isPrivilege column then Status.privilege? text
  else if isLimit column then Status.value? text.toList
  else none

/-- The metric of a column. -/
def descriptor (column : String) : Descriptor :=
  .of subsystem (String.ofList (Metric.namePart (lowered column)))
    "Privilege or resource limit from mysql.user." labelNames

/-- The labels of a row's samples. -/
def labels (row : Row) : List String := [row.getOrEmpty ["User"], row.getOrEmpty ["Host"]]

/-- The samples of a row; NULL reads as the empty text. -/
def samples (row : Row) : List Sample :=
  row.pairs.filterMap fun (column, text) =>
    (value? column (text.getD "")).map fun x => .of (descriptor column) .gauge x (labels row)

/-- The samples of all rows. -/
def harvest (rows : RowSet) : Harvest := .of (rows.rows.flatMap samples)

end MysqlMetrics.Accounts
