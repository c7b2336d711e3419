import MysqlMetrics.Text.Pieces
import MysqlMetrics.Text.Numeral
import MysqlMetrics.Decimal.Reader

/-!
# Log file names

The name of a log file ends in a point and its number in the sequence of files, as `binlog.000006`.
Two readings of the number: one of a text that is known to name a log file, and one of a text that
may be anything, which has to look like a log file name first.

* `LogFile.number` is the first; a text without a point or without a number behind it is an error.
* `LogFile.sequence?` is the second; a text that does not look like a name at all has none.
-/

namespace MysqlMetrics

open MysqlMetrics.Text

/-- Why a text does not name a log file. -/
inductive LogFileError where
  | noPoint (file : String)
  | badNumber (file : String) (cause : NumeralError)
  deriving DecidableEq, Repr

/-- The wording of a log file name's fault. -/
def LogFileError.message : LogFileError → String
  | .noPoint file => "split " ++ file ++ " by \x60.\x60 item not enough"
  | .badNumber file cause => "invalid log file sequence in " ++ file ++ ": " ++ cause.message

namespace LogFile

/-- The number behind the last point of a log file name. -/
def number (file : List Char) : Except LogFileError Nat :=
  match cutLast? '.' file with
  | none => .error (.noPoint (String.ofList file))
  | some (_, suffix) =>
    match Natural.read maxNatural64 suffix with
    | .ok n => .ok n
    | .error cause => .error (.badNumber (String.ofList file) cause)

/-- The part of a text before its last point reads as a number or as an address: it is one in
decimal notation, or a run of digits and points. -/
def isNumeric (name : List Char) : Bool :=
  (Decimal.read? name).isSome || name.all fun c => c.isDigit || c = '.'

/-- The digits behind the last point of a text that looks like a log file name: something on one
line before the point that is no number, and nothing but decimal digits behind it. -/
def suffix? (text : List Char) : Option (List Char) :=
  match cutLast? '.' text with
  | some (name, suffix) =>
    if name ≠ [] ∧ '\n' ∉ name ∧ suffix ≠ [] ∧ suffix.all isDecimalDigit ∧ ¬isNumeric name then
      some suffix
    else none
  | none => none

/-- The number of a log file as a double, from the digits at the end of its name. A number beyond 64
bits, or one in the digits of another script, has none. -/
def sequence? (suffix : List Char) : Option Float :=
  (Natural.read maxNatural64 suffix).toOption.map Decimal.ofNatural64

end LogFile

end MysqlMetrics
