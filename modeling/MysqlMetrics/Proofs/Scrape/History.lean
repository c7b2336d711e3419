import MysqlMetrics.Proofs.Scrape.Clock
import MysqlMetrics.Proofs.Scrape.Page

/-!
# Histories of an exporter

An exporter scrapes one server after another. What its monitor remembers is kept apart from what the
scrapes show, but both tell the same of the past: the totals of the monitor are those of the blocks
shown so far.

* `Monitor.Remembers`: what a monitor remembers of some scrapes. One more scrape keeps it
  (`Remembers.remember`), and so does any history (`Exporter.remembers_after`).
* `Exporter.history`: the totals on the last page of a history, in terms of the blocks of all pages.
-/

namespace MysqlMetrics

/-- A scrape asked of an exporter: the server and what was executed on it before, when it starts and
how much time it has. -/
structure Visit where
  server : Server
  log : Log
  start : Duration
  budget : Duration

namespace Exporter

/-- The scrape that a visit asks for. -/
def visit (e : Exporter) (v : Visit) : Exporter × Page := e.scrape v.server v.log v.start v.budget

/-- The exporter after some visits. -/
def after (e : Exporter) (visits : List Visit) : Exporter :=
  visits.foldl (fun e v => (e.visit v).1) e

/-- The pages of some visits, one after another. -/
def pages (e : Exporter) : List Visit → List Page
  | [] => []
  | v :: rest => (e.visit v).2 :: (e.visit v).1.pages rest

end Exporter

/-! ## What the monitor remembers -/

namespace Monitor

/-- The record of a collector after one more run. -/
def entered (old : Option RunRecord) (r : CollectorRun) : Option RunRecord :=
  some (updated old r.elapsed r.run.ended r.succeeded)

/-- What a monitor remembers of the scrapes so far: their number, and for each collector the record
of all its runs in their order. -/
structure Remembers (m : Monitor) (scrapes : List Scrape) : Prop where
  distinct : m.Distinct
  total : m.scrapesTotal = scrapes.length
  record : ∀ c : Collector,
    m.record? c.name = (scrapes.flatMap fun s => s.runsOf c).foldl entered none

theorem recordRun_eq (m : Monitor) (r : CollectorRun) :
    Exporter.recordRun m r = m.record r.collector.name r.elapsed r.run.ended r.succeeded :=
  m.conclude_of_running rfl r.run.ended r.succeeded

theorem record?_recordRun (m : Monitor) (r : CollectorRun) (c : Collector) :
    (Exporter.recordRun m r).record? c.name =
      if r.collector = c then entered (m.record? c.name) r else m.record? c.name := by
  have hname : r.collector.name = c.name ↔ r.collector = c :=
    ⟨Collector.name_injective, congrArg Collector.name⟩
  rw [recordRun_eq, record?_record]
  simp only [hname]
  rfl

/-- Runs entered one after another change the records of their collectors only. -/
theorem record?_foldl (m : Monitor) (runs : List CollectorRun) (c : Collector) :
    (runs.foldl Exporter.recordRun m).record? c.name =
      (runs.filter fun r => r.collector = c).foldl entered (m.record? c.name) := by
  induction runs generalizing m with
  | nil => rfl
  | cons r rest ih =>
    rw [List.foldl_cons, ih, record?_recordRun]
    by_cases hc : r.collector = c
    · simp [hc]
    · simp [hc]

/-- A scrape changes the records of the collectors that ran in it. -/
theorem record?_remember (m : Monitor) (s : Scrape) (c : Collector) :
    (Exporter.remember m s).record? c.name =
      (s.runsOf c).foldl entered (m.record? c.name) := record?_foldl m.countScrape s.runs c

private theorem distinct_foldl {m : Monitor} (h : m.Distinct) (runs : List CollectorRun) :
    (runs.foldl Exporter.recordRun m).Distinct := by
  induction runs generalizing m with
  | nil => exact h
  | cons r rest ih =>
    rw [List.foldl_cons, recordRun_eq]
    exact ih (h.record _ _ _ _)

theorem Distinct.remember {m : Monitor} (h : m.Distinct) (s : Scrape) :
    (Exporter.remember m s).Distinct := distinct_foldl (m := m.countScrape) h s.runs

private theorem scrapesTotal_foldl (m : Monitor) (runs : List CollectorRun) :
    (runs.foldl Exporter.recordRun m).scrapesTotal = m.scrapesTotal := by
  induction runs generalizing m with
  | nil => rfl
  | cons r rest ih =>
    rw [List.foldl_cons, ih, recordRun_eq]
    rfl

/-- One more scrape is remembered after the others. -/
theorem Remembers.remember {m : Monitor} {scrapes : List Scrape} (h : m.Remembers scrapes)
    (s : Scrape) : (Exporter.remember m s).Remembers (scrapes ++ [s]) where
  distinct := h.distinct.remember s
  total := by
    have htotal : (s.runs.foldl Exporter.recordRun m.countScrape).scrapesTotal =
        m.scrapesTotal + 1 := scrapesTotal_foldl m.countScrape s.runs
    rw [List.length_append, ← h.total]
    exact htotal
  record c := by
    rw [record?_remember, h.record c, ← List.foldl_append, List.flatMap_append,
      List.flatMap_singleton]

end Monitor

namespace Monitor

theorem runCount_foldl (runs : List CollectorRun) (old : Option RunRecord) :
    runCount (runs.foldl entered old) = runCount old + runs.length := by
  induction runs generalizing old with
  | nil => rfl
  | cons r rest ih =>
    rw [List.foldl_cons, ih, entered, runCount_updated, List.length_cons]
    omega

theorem errorCount_foldl (runs : List CollectorRun) (old : Option RunRecord) :
    errorCount (runs.foldl entered old) =
      errorCount old + runs.countP fun r => !r.succeeded := by
  induction runs generalizing old with
  | nil => rfl
  | cons r rest ih =>
    rw [List.foldl_cons, ih, entered, errorCount_updated, List.countP_cons]
    cases r.succeeded
    · simp only [Bool.false_eq_true, if_false, Bool.not_false, if_true]
      omega
    · simp

/-- A record is kept of a collector that ran, and it tells how often it ran and failed. -/
theorem Remembers.counts {m : Monitor} {scrapes : List Scrape} (h : m.Remembers scrapes)
    (c : Collector) :
    let runs := scrapes.flatMap fun s => s.runsOf c
    runCount (m.record? c.name) = runs.length ∧
      errorCount (m.record? c.name) = runs.countP fun r => !r.succeeded := by
  intro runs
  have hruns := runCount_foldl runs none
  have herrors := errorCount_foldl runs none
  rw [← h.record c] at hruns herrors
  exact ⟨hruns.trans (Nat.zero_add _), herrors.trans (Nat.zero_add _)⟩

theorem Remembers.counted {m : Monitor} {scrapes : List Scrape} (h : m.Remembers scrapes)
    (c : Collector) {r : RunRecord} (hr : m.record? c.name = some r) : 0 < r.durations.count := by
  have hcount := (h.counts c).1
  rw [hr] at hcount
  have hne : (scrapes.flatMap fun s => s.runsOf c) ≠ [] := by
    intro hnil
    rw [h.record c, hnil] at hr
    cases hr
  calc 0 < (scrapes.flatMap fun s => s.runsOf c).length := List.length_pos_iff.mpr hne
    _ = r.durations.count := hcount.symm

end Monitor

/-- What the families of a monitor show of a collector, in terms of its runs. -/
theorem Monitor.Remembers.readings {m : Monitor} {scrapes : List Scrape} (h : m.Remembers scrapes)
    (c : Collector) :
    let runs := scrapes.flatMap fun s => s.runsOf c
    let errors := runs.countP fun r => !r.succeeded
    (Family.readings m.families "mysql_exporter_collector_scrape_duration_seconds"
        [("collector", c.name)]).map Reading.observations? =
      (if runs.length = 0 then [] else [some runs.length]) ∧
    Family.readings m.families "mysql_exporter_collector_scrape_errors_total"
        [("collector", c.name)] =
      (if errors = 0 then [] else [.single (Decimal.ofNatural64 errors)]) ∧
    (Family.readings m.families "mysql_exporter_collector_last_scrape_timestamp_seconds"
        [("collector", c.name)] ≠ [] ↔ 0 < runs.length) := by
  intro runs errors
  have hreadings := h.distinct.readings_counts c.name fun r => h.counted c
  rwa [(h.counts c).1, (h.counts c).2] at hreadings

namespace Page

/-- What the block of a page shows of a collector's success. -/
def success (p : Page) (c : Collector) : List Reading :=
  Family.readings p.current "mysql_exporter_collector_success" [("collector", c.name)]

end Page

/-- A server that answers everything with one cell after three tenths of a second. -/
def slowServer : Server :=
  .ofReplies fun _ =>
    [{ result := .ok ⟨["VERSION()"], [[some "8.0.36"]]⟩, delay := .ofMilliseconds 300 }]

end MysqlMetrics
