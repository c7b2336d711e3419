import MysqlMetrics.Text.Blank
import MysqlMetrics.Text.Pieces
import MysqlMetrics.Text.Numeral
import MysqlMetrics.Text.Quoted

/-!
# Global transaction identifiers

A set of executed transactions is written as entries separated by commas; an entry is the identifier
of the server that began the transactions and, each behind a colon, ranges of their numbers. A range
is `n`, which stands for `n-n`, or `n-m`. Blanks around an entry do not count. Ranges are kept as
they are written: they may overlap, repeat and run backwards.

* `Gtid.read` reads a whole set or fails with its first fault.
* `TransactionSet.ranges` is never empty, so the first and the last transaction exist.
-/

namespace MysqlMetrics

open MysqlMetrics.Text

/-- The transactions from `first` to `last`. -/
structure TransactionRange where
  first : Nat
  last : Nat
  deriving DecidableEq, Repr

/-- The transactions that one server began: a range and the ranges after it. -/
structure TransactionSet where
  server : String
  head : TransactionRange
  tail : List TransactionRange
  deriving DecidableEq, Repr

namespace TransactionSet

/-- The ranges in the order they are written. -/
def ranges (s : TransactionSet) : List TransactionRange := s.head :: s.tail

/-- The first number of the first range. -/
def first (s : TransactionSet) : Nat := s.head.first

/-- The last number of the last range. -/
def last (s : TransactionSet) : Nat := (s.ranges.getLast (by simp [ranges])).last

end TransactionSet

/-- What is wrong with a set of transactions. -/
inductive GtidError where
  | notDecimal (numeral : String)
  | tooLarge (numeral : String)
  | tooManyBounds (entry part : String)
  | noRange (entry : String)
  deriving DecidableEq, Repr

/-- The wording of a fault in a set of transactions. -/
def GtidError.message : GtidError → String
  | .notDecimal n => "parse " ++ quoted n.toList ++ " to int64 failed: not a decimal number"
  | .tooLarge n =>
    "parse " ++ quoted n.toList ++ " to int64 failed: " ++ NumeralError.tooLarge.message
  | .tooManyBounds e p =>
    "can not parse gtid: " ++ e ++ ", range " ++ quoted p.toList ++ " has more than 2 items"
  | .noRange e => "can not parse gtid: " ++ e ++ ", transaction item is too little"

namespace Gtid

/-- The number of a transaction: ASCII digits, at most `2 ^ 63 - 1`. -/
def readNumber (text : List Char) : Except GtidError Nat :=
  if text = [] ∨ ¬text.all Char.isDigit then .error (.notDecimal (String.ofList text))
  else if maxInteger64 < digitsValue text then .error (.tooLarge (String.ofList text))
  else .ok (digitsValue text)

/-- A range of an entry, one or two numbers. -/
def readRange (entry part : List Char) : Except GtidError TransactionRange :=
  match cut '-' part with
  | (n, []) => (readNumber n).map fun n => ⟨n, n⟩
  | (n, [m]) =>
    match readNumber n with
    | .error e => .error e
    | .ok first => (readNumber m).map fun last => ⟨first, last⟩
  | _ => .error (.tooManyBounds (String.ofList entry) (String.ofList part))

/-- The ranges of an entry, or the fault of the first one that has a fault. -/
def readRanges (entry : List Char) : List (List Char) → Except GtidError (List TransactionRange)
  | [] => .ok []
  | part :: parts =>
    match readRange entry part with
    | .error e => .error e
    | .ok range => (readRanges entry parts).map (range :: ·)

/-- An entry without the blanks around it. -/
def readEntry (entry : List Char) : Except GtidError TransactionSet :=
  match readRanges entry (cut ':' entry).2 with
  | .error e => .error e
  | .ok [] => .error (.noRange (String.ofList entry))
  | .ok (head :: tail) => .ok ⟨String.ofList (cut ':' entry).1, head, tail⟩

/-- Entries, or the fault of the first one that has a fault. -/
def readEntries : List (List Char) → Except GtidError (List TransactionSet)
  | [] => .ok []
  | entry :: entries =>
    match readEntry (trim entry) with
    | .error e => .error e
    | .ok set => (readEntries entries).map (set :: ·)

/-- A set of transactions, one entry or more. -/
def read (text : List Char) : Except GtidError (List TransactionSet) :=
  readEntries (pieces ',' text)

end Gtid

end MysqlMetrics
