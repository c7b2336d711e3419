import MysqlMetrics.Text.Digit
import MysqlMetrics.Decimal.Binary

/-!
# Numbers in decimal notation

The notation of a double in a text: an optional sign, then either one of the words `inf`,
`infinity` and `nan` in any case, or digits with an optional point among, before or behind them and
an optional exponent. Nothing may stand around it, blanks included.

* `Literal.read?` recognises the notation without a sign and keeps the number as it is written, a
  whole number times a power of ten.
* `Literal.value` is the double nearest to that number, ties to even.
* `read?` is the number a text writes, if it writes one.
-/

namespace MysqlMetrics.Decimal

open MysqlMetrics.Text

/-- A number as it is written, without its sign: `significand · 10 ^ exponent`, or a word. -/
inductive Literal where
  | nan
  | infinity
  | decimal (significand : Nat) (exponent : Int)
  deriving DecidableEq, Repr

/-- The whole number that a text of ASCII digits writes; there is at least one. -/
def natural? (text : List Char) : Option Nat :=
  if text ≠ [] ∧ text.all Char.isDigit then some (digitsValue text) else none

/-- What stands behind the digits of a number: nothing, or `e`, a sign at will and digits. -/
def exponent? : List Char → Option Int
  | [] => some 0
  | c :: rest =>
    if c = 'e' ∨ c = 'E' then
      match rest with
      | '-' :: ds => (natural? ds).map fun n => -(n : Int)
      | '+' :: ds => (natural? ds).map Int.ofNat
      | ds => (natural? ds).map Int.ofNat
    else none

/-- The digits behind a point, if a point comes first, and what follows. -/
def fraction (text : List Char) : List Char × List Char :=
  match text with
  | '.' :: rest => digits rest
  | _ => ([], text)

namespace Literal

/-- Digits with a point at will, and an exponent. -/
def readDecimal? (text : List Char) : Option Literal :=
  let (whole, rest) := digits text
  let (part, rest) := fraction rest
  if whole = [] ∧ part = [] then none
  else (exponent? rest).map fun e => .decimal (digitsValue (whole ++ part)) (e - part.length)

/-- A number without a sign. -/
def read? (text : List Char) : Option Literal :=
  let word := text.map Char.toLower
  if word = ['n', 'a', 'n'] then some .nan
  else if word = ['i', 'n', 'f'] ∨ word = ['i', 'n', 'f', 'i', 'n', 'i', 't', 'y'] then
    some .infinity
  else readDecimal? text

/-- The double nearest to a written number, ties to even. -/
def value : Literal → Float
  | .nan => Decimal.nan
  | .infinity => Decimal.infinity
  | .decimal m (.ofNat e) => Float.ofScientific m false e
  | .decimal m (.negSucc e) => Float.ofScientific m true (e + 1)

end Literal

/-- The number that a text writes, with an optional sign in front. -/
def read? : List Char → Option Float
  | '-' :: rest => (Literal.read? rest).map fun l => -l.value
  | '+' :: rest => (Literal.read? rest).map Literal.value
  | text => (Literal.read? text).map Literal.value

/-- Why a text is not a number. -/
inductive ReadError where
  | empty
  | malformed
  deriving DecidableEq, Repr

/-- The wording of a number's fault. -/
def ReadError.message : ReadError → String
  | .empty => "cannot parse float from empty string"
  | .malformed => "invalid float literal"

/-- The number that a text writes, or why it writes none. -/
def read (text : List Char) : Except ReadError Float :=
  match read? text with
  | some x => .ok x
  | none => .error (if text = [] then .empty else .malformed)

end MysqlMetrics.Decimal
