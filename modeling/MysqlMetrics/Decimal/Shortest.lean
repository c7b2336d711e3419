import MysqlMetrics.Decimal.Binary

/-!
# The shortest decimal notation of a double

Among the decimals that read back as a given double, the one with the fewest digits, and of those
the one nearest to it. A double `m · 2 ^ q` is read back from every real between the midpoints to
its two neighbours, the midpoints included if `m` is even. On each decimal grid, the coarsest first,
only the two points around the value can lie in that interval.

* `closest?` chooses on one grid; of two equally near points it takes the upper one.
* `render` writes the digits without an exponent, with a point only where a fraction follows.
-/

namespace MysqlMetrics.Decimal

/-- A decimal `digits · 10 ^ place`. -/
structure Grid where
  digits : Nat
  place : Int
  deriving DecidableEq, Repr

/-- The interval of reals that are read back as one double, in units of `2 ^ unit`: its ends, the
double itself, and whether the ends belong to it. -/
structure Interval where
  low : Nat
  value : Nat
  high : Nat
  unit : Int
  closed : Bool

/-- The interval of `m · 2 ^ q`. The double below a power of two is only half as far away, unless
it is subnormal as well. -/
def Interval.of (m : Nat) (q : Int) : Interval :=
  if m = Nat.pow 2 52 ∧ -1074 < q then ⟨4 * m - 1, 4 * m, 4 * m + 2, q - 2, true⟩
  else ⟨4 * m - 2, 4 * m, 4 * m + 2, q - 2, m % 2 = 0⟩

/-- The factors that make `2 ^ unit` and `10 ^ place` comparable as whole numbers. -/
def factors (unit place : Int) : Nat × Nat :=
  (Nat.pow 2 unit.toNat * Nat.pow 10 (-place).toNat,
    Nat.pow 10 place.toNat * Nat.pow 2 (-unit).toNat)

/-- The point of the grid at `place` that is nearest to the value, if it lies in the interval. -/
def closest? (i : Interval) (place : Int) : Option Grid :=
  let (binary, decimal) := factors i.unit place
  let low := i.low * binary
  let value := i.value * binary
  let high := i.high * binary
  let below := value / decimal
  let fits (n : Nat) : Bool :=
    if i.closed then low ≤ n * decimal && n * decimal ≤ high
    else low < n * decimal && n * decimal < high
  let down := fits below
  let up := fits (below + 1)
  if up && (!down || decimal ≤ 2 * (value - below * decimal)) then some ⟨below + 1, place⟩
  else if down then some ⟨below, place⟩
  else none

/-- A place above the leading digit of `m · 2 ^ q`. -/
def leadingPlace (m : Nat) (q : Int) : Int := (((m.log2 : Int) + 1 + q) * 30103).fdiv 100000 + 2

/-- The shortest decimal of `m · 2 ^ q`. Its digits are at most 17, so a few more grids than that
are enough. -/
def shortest (m : Nat) (q : Int) : Grid :=
  ((List.range 24).findSome? fun (i : Nat) => closest? (.of m q) (leadingPlace m q - i)).getD ⟨0, 0⟩

/-- A decimal without an exponent. -/
def Grid.render (g : Grid) : List Char :=
  let ds := Nat.toDigits 10 g.digits
  if 0 ≤ g.place then ds ++ List.replicate g.place.toNat '0'
  else
    let places := (-g.place).toNat
    if places < ds.length then
      ds.take (ds.length - places) ++ '.' :: ds.drop (ds.length - places)
    else '0' :: '.' :: List.replicate (places - ds.length) '0' ++ ds

/-- The shortest notation of a double that reads back as it. -/
def render (x : Float) : String :=
  match exact x with
  | .nan => "NaN"
  | .infinite negative => if negative then "-inf" else "inf"
  | .finite negative m q =>
    let digits := String.ofList (if m = 0 then ['0'] else (shortest m q).render)
    if negative then "-" ++ digits else digits

end MysqlMetrics.Decimal
