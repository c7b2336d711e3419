import MysqlMetrics.Decimal.Binary

/-!
# Spans of time

A span is a whole number of nanoseconds. `Duration.ofSeconds?` rounds the exact value of a double to
the nearest one, a tie to the even neighbour.

* `ofSeconds?_eq_some`: which doubles are a span, and which span.
* `ceilMilliseconds_bounds`: rounding up to whole milliseconds adds less than one.
* `roundHalfEven_within`: the rounded quotient is within half a unit of the exact one.
-/

namespace MysqlMetrics

/-- A span of time in nanoseconds. -/
structure Duration where
  nanoseconds : Nat
  deriving DecidableEq, Repr, Inhabited

namespace Duration

/-- Nanoseconds in a second. -/
def perSecond : Nat := 1000000000

/-- Nanoseconds in a millisecond. -/
def perMillisecond : Nat := 1000000

/-- A whole number of seconds. -/
def ofWholeSeconds (n : Nat) : Duration := ⟨n * perSecond⟩

/-- A whole number of milliseconds. -/
def ofMilliseconds (n : Nat) : Duration := ⟨n * perMillisecond⟩

/-- The shortest span of whole milliseconds that is not below this one. -/
def ceilMilliseconds (d : Duration) : Duration :=
  ofMilliseconds ((d.nanoseconds + 999999) / perMillisecond)

theorem ceilMilliseconds_bounds (d : Duration) :
    d.nanoseconds ≤ d.ceilMilliseconds.nanoseconds ∧
      d.ceilMilliseconds.nanoseconds < d.nanoseconds + perMillisecond := by
  simp only [ceilMilliseconds, ofMilliseconds, perMillisecond]
  omega

/-- The completed seconds of a span. -/
def seconds (d : Duration) : Nat := d.nanoseconds / perSecond

/-- The nanoseconds of a span beyond its completed seconds. -/
def subsecond (d : Duration) : Nat := d.nanoseconds % perSecond

/-- The quotient rounded to the nearest whole number, a tie to the even one. -/
def roundHalfEven (numerator denominator : Nat) : Nat :=
  let quotient := numerator / denominator
  let rest := numerator % denominator
  if 2 * rest < denominator then quotient
  else if denominator < 2 * rest then quotient + 1
  else quotient + quotient % 2

theorem roundHalfEven_within {n d : Nat} (hd : 0 < d) :
    2 * n ≤ 2 * (roundHalfEven n d * d) + d ∧ 2 * (roundHalfEven n d * d) ≤ 2 * n + d := by
  have hn := Nat.div_add_mod n d
  have hr := Nat.mod_lt n hd
  unfold roundHalfEven
  simp only
  generalize n / d = q at *
  generalize n % d = r at *
  have hq : d * q = q * d := Nat.mul_comm d q
  have h1 : (q + 1) * d = q * d + d := Nat.succ_mul q d
  split
  · omega
  split
  · omega
  · have h2 : 2 * r = d := by omega
    rcases Nat.mod_two_eq_zero_or_one q with h | h <;> rw [h]
    · simp; omega
    · omega

/-- Whether `m · 2 ^ q` is below `2 ^ 64`. -/
def fitsSeconds (m : Nat) (q : Int) : Bool := m * Nat.pow 2 q.toNat < Nat.pow 2 64 * Nat.pow 2 (-q).toNat

/-- The span of `m · 2 ^ q` seconds, to the nearest nanosecond. -/
def ofBinarySeconds (m : Nat) (q : Int) : Duration :=
  ⟨roundHalfEven (m * Nat.pow 2 q.toNat * perSecond) (Nat.pow 2 (-q).toNat)⟩

/-- A number of seconds as a span: no negative number, none from `2 ^ 64` on, no infinity and no
NaN. Negative zero is zero. -/
def ofSeconds? (x : Float) : Option Duration :=
  match Decimal.exact x with
  | .finite negative m q =>
    if negative ∧ m ≠ 0 then none
    else if fitsSeconds m q then some (ofBinarySeconds m q) else none
  | _ => none

theorem ofSeconds?_eq_some {x : Float} {d : Duration} :
    ofSeconds? x = some d ↔ ∃ negative m q, Decimal.exact x = .finite negative m q ∧
      (negative = true → m = 0) ∧ fitsSeconds m q = true ∧ d = ofBinarySeconds m q := by
  unfold ofSeconds?
  split
  · rename_i negative m q h
    simp only [h, Decimal.Exact.finite.injEq]
    constructor
    · intro hd
      split at hd
      · cases hd
      · rename_i hn
        split at hd
        · cases hd
          exact ⟨negative, m, q, ⟨rfl, rfl, rfl⟩, fun hneg => by simpa [hneg] using hn,
            by assumption, rfl⟩
        · cases hd
    · rintro ⟨_, _, _, ⟨rfl, rfl, rfl⟩, hneg, hfit, rfl⟩
      have hn : ¬(negative = true ∧ m ≠ 0) := fun hc => hc.2 (hneg hc.1)
      simp [hn, hfit]
  · rename_i h
    simp only [reduceCtorEq, false_iff]
    rintro ⟨negative, m, q, he, _⟩
    exact h negative m q he

/-- A span as a number of seconds: the double of the whole seconds plus that of the rest. -/
def toSeconds (d : Duration) : Float :=
  Decimal.ofNatural64 d.seconds + Decimal.ofNatural64 d.subsecond / 1000000000

end Duration

end MysqlMetrics
