import MysqlMetrics.Text.Blank
import MysqlMetrics.Text.Numeral

/-!
# Server versions

A version is up to three numbers separated by points at the front of a text, after blanks; whatever
follows is the vendor's. A text that does not begin with a digit is version 0.0.0.

* `Version.number` puts two digits aside for the minor number and two for the patch.
* `Version.ordinal` is that number, at most `2 ^ 31 - 1`; zero stands for an unknown version.
-/

namespace MysqlMetrics

open MysqlMetrics.Text

/-- A server version; parts that are not written are zero. -/
structure Version where
  major : Nat
  minor : Nat
  patch : Nat
  deriving DecidableEq, Repr

namespace Version

/-- The decimal digits, of any script, that a text begins with, and what follows. -/
def run (text : List Char) : List Char × List Char :=
  (text.takeWhile isDecimalDigit, text.dropWhile isDecimalDigit)

/-- The digits behind a point, if the text begins with a point and a digit, and what follows. -/
def further (text : List Char) : List Char × List Char :=
  match text with
  | '.' :: rest => if (run rest).1 = [] then ([], text) else run rest
  | _ => ([], text)

/-- The number of a part; zero if nothing is written, if it is written in digits of another script
or if it exceeds `2 ^ 63 - 1`. -/
def part (ds : List Char) : Nat := (Natural.read maxInteger64 ds).toOption.getD 0

/-- The version a text begins with. -/
def read (text : List Char) : Version :=
  let (major, rest) := run (trim text)
  if major = [] then ⟨0, 0, 0⟩
  else
    let (minor, rest) := further rest
    let (patch, _) := further rest
    ⟨part major, part minor, part patch⟩

/-- The version with both points. -/
def render (v : Version) : String :=
  toString v.major ++ "." ++ toString v.minor ++ "." ++ toString v.patch

/-- The version as one number. -/
def number (v : Version) : Nat := v.major * 10000 + v.minor * 100 + v.patch

/-- The largest ordinal. -/
def maxOrdinal : Nat := 2147483647

/-- The number of a version, capped. -/
def ordinal (v : Version) : Nat := min v.number maxOrdinal

end Version

end MysqlMetrics
