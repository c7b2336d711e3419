import MysqlMetrics.Version
import MysqlMetrics.Collector.Basic
import MysqlMetrics.Metric.Family

/-!
# Scrapes

One scrape asks the server for its version, runs the collectors that the version allows, and turns
their samples into families. A server that does not answer in time is down, and nothing else is
asked of it. A collector that fails or runs out of time is marked as failed and does not touch the
others.

All collectors share the scrape's deadline, and each runs from the moment the version is known.

* `Scrape.run` is one scrape; it is over when the last collector is (`lastEnd_le_iff`).
* `Scrape.samples` lists the samples in the order of the collectors; a scrape that interleaves them
  otherwise shows the same families.
-/

namespace MysqlMetrics

/-- A collector's part in a scrape. -/
structure CollectorRun where
  collector : Collector
  started : Duration
  run : Collector.Run

/-- A finished scrape: whether the server is up, what was executed, what each collector did, and
when it was over. -/
structure Scrape where
  up : Bool
  executed : Log
  runs : List CollectorRun
  ended : Duration

namespace CollectorRun

/-- How long the collector took. -/
def elapsed (r : CollectorRun) : Duration := ⟨r.run.ended.nanoseconds - r.started.nanoseconds⟩

/-- The collector came to its end without a fault and in time. -/
def succeeded (r : CollectorRun) : Bool := r.run.outcome.succeeded

end CollectorRun

namespace Scrape

/-- The query for the server's version. -/
def versionSql : String := "SELECT VERSION()"

/-- Whether the server is up. -/
def upDescriptor : Descriptor := .of "" "up" "Whether the MySQL server is up." []

/-- Whether a collector succeeded. -/
def successDescriptor : Descriptor :=
  .of "exporter" "collector_success" "mysqld_exporter: Whether a collector succeeded." ["collector"]

/-- How long a collector took. -/
def durationDescriptor : Descriptor :=
  .of "exporter" "collector_duration_seconds" "Collector time duration." ["collector"]

/-- Points in time that a clock can show: less than `2 ^ 63` seconds. -/
def lastInstant : Nat := Nat.pow 2 63 * Duration.perSecond

/-- The deadline of a scrape that starts at `now`; a budget beyond what the clock can show counts as
the default one. -/
def deadlineAt (now budget fallback : Duration) : Duration :=
  if now.nanoseconds + budget.nanoseconds < lastInstant then
    ⟨now.nanoseconds + budget.nanoseconds⟩
  else ⟨now.nanoseconds + fallback.nanoseconds⟩

/-- The first column of the first row. -/
def firstCell? (rows : RowSet) : Option String :=
  rows.rows.head?.bind fun row => row.pairs.head?.bind Prod.snd

/-- The version a server reports, if it is up. -/
def versionText? (fetch : Fetch) : Option String :=
  match fetch.outcome with
  | .rows rows => firstCell? rows
  | _ => none

/-- The collector works with a server of this version; an unknown version rules nothing out. -/
def allows (ordinal : Nat) (c : Collector) : Bool := ordinal = 0 || c.minVersion ≤ ordinal

/-- Runs collectors on one server. The log grows from one to the next; each starts at `now`. -/
def runCollectors (server : Server) (deadline : Deadline) (now : Duration) :
    Log → List Collector → List CollectorRun
  | _, [] => []
  | log, c :: rest =>
    let run := c.collect server deadline log now
    ⟨c, now, run⟩ :: runCollectors server deadline now (log ++ run.executed) rest

/-- The time at which the last of some runs is over; none ends before `now`. -/
def lastEnd (now : Duration) (runs : List CollectorRun) : Duration :=
  ⟨(runs.map (·.run.ended.nanoseconds)).foldl max now.nanoseconds⟩

/-- The last run is over at a time if each of them is. -/
theorem lastEnd_le_iff {now : Duration} {runs : List CollectorRun} {t : Nat} :
    (lastEnd now runs).nanoseconds ≤ t ↔
      now.nanoseconds ≤ t ∧ ∀ r ∈ runs, r.run.ended.nanoseconds ≤ t := by
  induction runs generalizing now with
  | nil => simp [lastEnd]
  | cons r rest ih =>
    have hstep : lastEnd now (r :: rest) =
        lastEnd ⟨max now.nanoseconds r.run.ended.nanoseconds⟩ rest := rfl
    rw [hstep, ih, List.forall_mem_cons, Nat.max_le, and_assoc]

/-- One scrape of a server with the log `log`, from `now` to the deadline. -/
def run (enabled : List Collector) (server : Server) (log : Log) (now deadline : Duration) :
    Scrape :=
  let probe := Fetch.run server (some deadline) log now [versionSql]
  match versionText? probe with
  | none => ⟨false, probe.executed, [], probe.ended⟩
  | some text =>
    let runs := runCollectors server (some deadline) probe.ended (log ++ probe.executed)
      (enabled.filter (allows (Version.read text.toList).ordinal))
    ⟨true, probe.executed ++ runs.flatMap (·.run.executed), runs, lastEnd probe.ended runs⟩

/-- The samples about a collector's run itself. -/
def closing (r : CollectorRun) : List Sample :=
  [.of successDescriptor .gauge (if r.succeeded then 1 else 0) [r.collector.name],
    .of durationDescriptor .gauge r.elapsed.toSeconds [r.collector.name]]

/-- The sample that says whether the server is up. -/
def upSample (s : Scrape) : Sample := .of upDescriptor .gauge (if s.up then 1 else 0) []

/-- The samples of a scrape: the server's, and for each collector its own and those about its
run. -/
def samples (s : Scrape) : List Sample :=
  s.upSample :: s.runs.flatMap fun r => r.run.outcome.samples ++ closing r

/-- The families of a scrape. -/
def families (s : Scrape) : List Family := Family.ofSamples (Sample.accepted s.samples)

/-- The number of time series of families. -/
def seriesCount (families : List Family) : Nat := (families.flatMap Family.series).length

end Scrape

end MysqlMetrics
