import MysqlMetrics.Status.LogFile
import MysqlMetrics.Time.Notation

/-!
# Values of status variables

The server reports every status variable as text: switches, points in time, names of log files and
numbers share one column. `Status.value?` reads such a text as a number; the first reading that
applies decides, and a text that none applies to has no value.

1. `keyword?`: words for on and off, in any case.
2. `DateTime.readZoned?` and 3. `DateTime.readDashed?`: points in time, as seconds since 1970.
4. `LogFile.suffix?`: a log file's name, as its number in the sequence; the decision is final.
5. `Decimal.read?`: a number.

`privilege?` reads the flag of a privilege, which is `Y` or `N` and nothing else.
-/

namespace MysqlMetrics.Status

open MysqlMetrics.Text

/-- The words for a switch that is on. -/
def onWords : List String := ["yes", "on", "primary"]

/-- The words for a switch that is off. A thread that is still connecting is not running. -/
def offWords : List String :=
  ["no", "off", "disabled", "connecting", "non-primary", "disconnected"]

/-- A switch, by its word in any case: 1 for on and 0 for off. -/
def keyword? (text : List Char) : Option Float :=
  let word := String.ofList (text.map Char.toLower)
  if word ∈ onWords then some 1 else if word ∈ offWords then some 0 else none

/-- The value of a status variable. -/
def value? (text : List Char) : Option Float :=
  match keyword? text with
  | some x => some x
  | none =>
    match DateTime.readZoned? text with
    | some t => some t.toUnix
    | none =>
      match DateTime.readDashed? text with
      | some t => some t.toUnix
      | none =>
        match LogFile.suffix? text with
        | some suffix => LogFile.sequence? suffix
        | none => Decimal.read? text

/-- The flag of a privilege. -/
def privilege? (text : String) : Option Float :=
  if text = "Y" then some 1 else if text = "N" then some 0 else none

end MysqlMetrics.Status
