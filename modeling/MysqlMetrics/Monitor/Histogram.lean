import MysqlMetrics.Metric.Family
import MysqlMetrics.Time.Duration

/-!
# Histograms of durations

A histogram counts spans of time by upper bounds. A bound counts every span up to it, so the counts
grow with the bounds.

* `Histogram.observe` counts one more span.
-/

namespace MysqlMetrics

/-- Spans of time counted by the bounds they do not exceed. -/
structure Histogram where
  buckets : List (Duration × Nat)
  sum : Duration
  count : Nat
  deriving DecidableEq, Repr

namespace Histogram

/-- The bounds for the time that a collector takes, from one millisecond to five seconds. -/
def bounds : List Duration :=
  [1, 5, 10, 25, 50, 100, 250, 500, 1000, 2500, 5000].map .ofMilliseconds

/-- Nothing counted yet. -/
def empty : Histogram := ⟨bounds.map (·, 0), ⟨0⟩, 0⟩

/-- One more span. -/
def observe (h : Histogram) (d : Duration) : Histogram where
  buckets := h.buckets.map fun (bound, n) =>
    (bound, if d.nanoseconds ≤ bound.nanoseconds then n + 1 else n)
  sum := ⟨h.sum.nanoseconds + d.nanoseconds⟩
  count := h.count + 1

/-- The histogram as a family shows it, in seconds. -/
def distribution (h : Histogram) : Distribution :=
  ⟨h.buckets.map fun (bound, n) => (bound.toSeconds, n), h.sum.toSeconds, h.count⟩

end Histogram

end MysqlMetrics
