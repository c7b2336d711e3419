import MysqlMetrics.Monitor.Histogram

/-!
# Monitoring the collectors

What the exporter remembers from one scrape to the next: for each collector the times it took, its
errors and its last run, and for the exporter the number of scrapes and the size of the last one. A
run is timed by a `Timer` and recorded when the timer is finished; it counts as an error unless it
ended in success. A timer that goes out of use is finished again, as an error, so it remembers that
it was recorded.

* `Monitor.record` enters a finished run under its collector's name.
* `Monitor.finish` records a timer that is not done; `Monitor.discard` is what becomes of a timer
  that goes out of use, `Monitor.conclude` of one that ends in success or error before.
* `Monitor.families` shows everything remembered; a collector without a run is not shown, and no
  errors are shown of one that had none.
-/

namespace MysqlMetrics

/-- What is remembered of a collector's runs. -/
structure RunRecord where
  durations : Histogram
  errors : Nat
  last : Duration
  deriving DecidableEq, Repr

/-- What is remembered of all collectors, by name, and of all scrapes. -/
structure Monitor where
  records : List (String × RunRecord) := []
  metricsTotal : Int := 0
  scrapesTotal : Nat := 0
  deriving DecidableEq, Repr

/-- A running collector: its name, when it started, and whether its run was recorded. -/
structure Timer where
  collector : String
  started : Duration
  isDone : Bool := false
  deriving DecidableEq, Repr

namespace Monitor

/-- The record of a collector after a run that took `elapsed` and ended at `now`. -/
def updated (old : Option RunRecord) (elapsed now : Duration) (success : Bool) : RunRecord where
  durations := ((old.map RunRecord.durations).getD .empty).observe elapsed
  errors := ((old.map RunRecord.errors).getD 0) + if success then 0 else 1
  last := now

/-- Enters a run under a name. -/
def recordIn (collector : String) (elapsed now : Duration) (success : Bool) :
    List (String × RunRecord) → List (String × RunRecord)
  | [] => [(collector, updated none elapsed now success)]
  | (name, r) :: rest =>
    if name = collector then (name, updated (some r) elapsed now success) :: rest
    else (name, r) :: recordIn collector elapsed now success rest

/-- Enters a run that took `elapsed` and ended at `now`. -/
def record (m : Monitor) (collector : String) (elapsed now : Duration) (success : Bool) :
    Monitor :=
  { m with records := recordIn collector elapsed now success m.records }

/-- Records the run of a timer, which is done then; of a timer that is done nothing is recorded. -/
def finish (m : Monitor) (t : Timer) (now : Duration) (success : Bool) : Monitor × Timer :=
  if t.isDone then (m, t)
  else
    (m.record t.collector ⟨now.nanoseconds - t.started.nanoseconds⟩ now success,
      { t with isDone := true })

/-- A timer goes out of use: if it is not done, its run was an error. -/
def discard (m : Monitor) (t : Timer) (now : Duration) : Monitor := (m.finish t now false).1

/-- A timer ends in success or in an error, and goes out of use then. -/
def conclude (m : Monitor) (t : Timer) (now : Duration) (success : Bool) : Monitor :=
  let (m, t) := m.finish t now success
  m.discard t now

/-- The record of a collector. -/
def record? (m : Monitor) (collector : String) : Option RunRecord :=
  (m.records.find? (·.1 == collector)).map Prod.snd

/-- One more scrape. -/
def countScrape (m : Monitor) : Monitor := { m with scrapesTotal := m.scrapesTotal + 1 }

/-- The size of the last scrape. -/
def setMetrics (m : Monitor) (n : Int) : Monitor := { m with metricsTotal := n }

/-- A series labelled with a collector. -/
def labelled (collector : String) (reading : Reading) : Series :=
  ⟨[("collector", collector)], reading⟩

/-- A family with the series of some records. -/
def recordFamily (m : Monitor) (name help : String) (type : FamilyType)
    (reading? : RunRecord → Option Reading) : Family :=
  ⟨name, help, type, Family.sortSeries (m.records.filterMap fun (collector, r) =>
    (reading? r).map (labelled collector))⟩

/-- A family with one series without labels. -/
def totalFamily (name help : String) (type : FamilyType) (value : Float) : Family :=
  ⟨name, help, type, [⟨[], .single value⟩]⟩

/-- Everything remembered, as families sorted by name; families without series are left out. -/
def families (m : Monitor) : List Family :=
  [m.recordFamily "mysql_exporter_collector_last_scrape_timestamp_seconds"
      "Unix timestamp of the last scrape attempt per collector" .gauge
      fun r => some (.single r.last.toSeconds),
    m.recordFamily "mysql_exporter_collector_scrape_duration_seconds"
      "Time spent scraping each collector in seconds" .histogram
      fun r => some (.distribution r.durations.distribution),
    m.recordFamily "mysql_exporter_collector_scrape_errors_total"
      "Total number of scrape errors per collector" .counter
      fun r => if r.errors = 0 then none else some (.single (Decimal.ofNatural64 r.errors)),
    totalFamily "mysql_exporter_metrics_total" "Number of samples exported by the last scrape"
      .gauge (Decimal.ofInteger64 m.metricsTotal),
    totalFamily "mysql_exporter_scrapes_total" "Total number of scrapes performed since start"
      .counter (Decimal.ofNatural64 m.scrapesTotal)].filter fun f => !f.series.isEmpty

end Monitor

end MysqlMetrics
