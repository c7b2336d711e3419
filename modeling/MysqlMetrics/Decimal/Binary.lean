/-!
# The exact value of a double

`Float.exact` takes a double apart into its sign and a whole number times a power of two, or says
that it is infinite or not a number. Everything that has to be exact (rounding to nanoseconds,
choosing digits) is computed from there in natural numbers.
-/

namespace MysqlMetrics.Decimal

/-- What a double stands for; a finite one is `significand · 2 ^ exponent` with a sign. -/
inductive Exact where
  | nan
  | infinite (negative : Bool)
  | finite (negative : Bool) (significand : Nat) (exponent : Int)
  deriving DecidableEq, Repr

/-- The exact value of a double; zero has the significand zero. -/
def exact (x : Float) : Exact :=
  match x.toModel.unpack with
  | .notANumber => .nan
  | .infinity s => .infinite (s == .negative)
  | .zero s => .finite (s == .negative) 0 0
  | .finite s m e _ => .finite (s == .negative) m e

/-- The value that is not a number. -/
def nan : Float := Float.ofBits 0x7FF8000000000000

/-- Positive infinity. -/
def infinity : Float := Float.ofBits 0x7FF0000000000000

/-- The double nearest to a whole number below `2 ^ 64`. -/
def ofNatural64 (n : Nat) : Float := n.toUInt64.toFloat

/-- The double nearest to a whole number from `-2 ^ 63` to `2 ^ 63 - 1`. -/
def ofInteger64 (n : Int) : Float :=
  if n < 0 then -ofNatural64 n.natAbs else ofNatural64 n.natAbs

end MysqlMetrics.Decimal
