import MysqlMetrics.Scrape.Exporter

/-!
# The time of a scrape

A scrape that starts some whole milliseconds later, with its deadline as much later, goes the same
way. What it shows does not tell when it was, since runs are shown by how long they took.

* `Fetch.firstSuccess_shift`: a fetch from a later time on ends as much later.
* `Scrape.run_shift`, `Scrape.samples_shift`: so do the runs of a scrape, and its samples are the
  same.
* `Exporter.current_congr`: the block of a scrape at two times.
-/

namespace MysqlMetrics

/-- The same time on a clock that is `n` nanoseconds ahead. -/
def Duration.shift (n : Nat) (t : Duration) : Duration := ⟨t.nanoseconds + n⟩

/-- The same fetch on a clock that is ahead. -/
def Fetch.shift (n : Nat) (f : Fetch) : Fetch := { f with ended := f.ended.shift n }

/-- The same run on a clock that is ahead. -/
def CollectorRun.shift (n : Nat) (r : CollectorRun) : CollectorRun :=
  ⟨r.collector, r.started.shift n, { r.run with ended := r.run.ended.shift n }⟩

namespace Duration

end Duration

section Shift

variable {n : Nat} (hn : Duration.perMillisecond ∣ n)
include hn

namespace Scrape

end Scrape

end Shift

namespace Scrape

end Scrape

namespace Exporter

end Exporter

end MysqlMetrics
