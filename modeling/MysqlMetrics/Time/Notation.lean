import MysqlMetrics.Text.Blank
import MysqlMetrics.Text.Digit
import MysqlMetrics.Text.Pieces
import MysqlMetrics.Time.Calendar

/-!
# Written dates and times

Two notations of a point in time, both in UTC and both with an optional fraction of a second:
`2031-04-14 10:35:29.5` and `Apr 14 10:35:29.5 2031 GMT`. They are read leniently: blanks may stand
in front of a number and where the notation has a space, there may be no blank as well, a number may
have fewer digits than usual, and a year may have a sign and then any number of digits. The zone of
the second notation is a word of ASCII letters and is not looked at.

* `readDashed?` and `readZoned?` are the two notations; both refuse dates that do not exist.
-/

namespace MysqlMetrics.DateTime

open MysqlMetrics.Text

/-- A number of at most `width` digits, blanks in front allowed, and what follows. -/
def field? (width : Nat) (text : List Char) : Option (Nat × List Char) :=
  let rest := trimStart text
  let ds := (rest.take width).takeWhile Char.isDigit
  if ds = [] then none else some (digitsValue ds, rest.drop ds.length)

/-- A number of any length, and what follows. -/
def anyDigits? (text : List Char) : Option (Nat × List Char) :=
  let (ds, rest) := digits text
  if ds = [] then none else some (digitsValue ds, rest)

/-- A year of at most four digits, or of any number of digits behind a sign. -/
def year? (text : List Char) : Option (Int × List Char) :=
  match trimStart text with
  | '-' :: rest => (anyDigits? rest).map fun (n, rest) => (-(n : Int), rest)
  | '+' :: rest => (anyDigits? rest).map fun (n, rest) => ((n : Int), rest)
  | rest => (field? 4 rest).map fun (n, rest) => ((n : Int), rest)

/-- The English abbreviations of the months, in order. -/
def monthNames : List (List Char) :=
  [['j', 'a', 'n'], ['f', 'e', 'b'], ['m', 'a', 'r'], ['a', 'p', 'r'], ['m', 'a', 'y'],
   ['j', 'u', 'n'], ['j', 'u', 'l'], ['a', 'u', 'g'], ['s', 'e', 'p'], ['o', 'c', 't'],
   ['n', 'o', 'v'], ['d', 'e', 'c']]

/-- A month by its three letters in any case. -/
def monthName? : List Char → Option (Nat × List Char)
  | a :: b :: c :: rest =>
    (monthNames.idxOf? [a.toLower, b.toLower, c.toLower]).map fun i => (i + 1, rest)
  | _ => none

/-- One particular character. -/
def mark? (c : Char) : List Char → Option (List Char)
  | d :: rest => if d = c then some rest else none
  | [] => none

/-- The nanoseconds of a decimal fraction of a second; digits after the ninth do not count. -/
def nanosecondsOf (ds : List Char) : Nat :=
  digitsValue (ds.take 9) * Nat.pow 10 (9 - (ds.take 9).length)

/-- A fraction of a second: nothing, or a point and at least one digit. -/
def fraction? (text : List Char) : Option (Nat × List Char) :=
  match text with
  | '.' :: rest =>
    let (ds, rest) := digits rest
    if ds = [] then none else some (nanosecondsOf ds, rest)
  | _ => some (0, text)

/-- A time of day `10:35:29` with an optional fraction. -/
def clock? (text : List Char) : Option ((Nat × Nat × Nat × Nat) × List Char) := do
  let (hour, rest) ← field? 2 text
  let rest ← mark? ':' rest
  let (minute, rest) ← field? 2 rest
  let rest ← mark? ':' rest
  let (second, rest) ← field? 2 rest
  let (nanosecond, rest) ← fraction? rest
  return ((hour, minute, second, nanosecond), rest)

/-- The point in time, if it exists and nothing is left of the text. -/
def checked? (t : DateTime) (rest : List Char) : Option DateTime :=
  if rest = [] ∧ t.Exists then some t else none

/-- The notation `2031-04-14 10:35:29.5`. -/
def readDashed? (text : List Char) : Option DateTime := do
  let (year, rest) ← year? text
  let rest ← mark? '-' rest
  let (month, rest) ← field? 2 rest
  let rest ← mark? '-' rest
  let (day, rest) ← field? 2 rest
  let ((hour, minute, second, nanosecond), rest) ← clock? (trimStart rest)
  checked? { year, month, day, hour, minute, second, nanosecond } rest

/-- The notation `Apr 14 10:35:29.5 2031`. -/
def readNamed? (text : List Char) : Option DateTime := do
  let (month, rest) ← monthName? text
  let (day, rest) ← field? 2 (trimStart rest)
  let ((hour, minute, second, nanosecond), rest) ← clock? (trimStart rest)
  let (year, rest) ← year? (trimStart rest)
  checked? { year, month, day, hour, minute, second, nanosecond } rest

/-- The notation `Apr 14 10:35:29.5 2031 GMT`: the zone stands behind the last space. -/
def readZoned? (text : List Char) : Option DateTime := do
  let (time, zone) ← cutLast? ' ' text
  if zone ≠ [] ∧ zone.all Char.isAlpha then readNamed? time else none

end MysqlMetrics.DateTime
