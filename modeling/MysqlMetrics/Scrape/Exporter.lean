import MysqlMetrics.Settings
import MysqlMetrics.Scrape.Basic
import MysqlMetrics.Monitor.Basic
import MysqlMetrics.Metric.Exposition

/-!
# The exporter

An exporter has settings and a monitor. Every scrape of it shows the families of that scrape alone,
followed by what the monitor remembers of all scrapes, the present one included.

* `Exporter.scrape` carries out one scrape and updates the monitor.
* `Page.text` is the exposition of a scrape.
-/

namespace MysqlMetrics

/-- An exporter: its settings, and what it remembers. -/
structure Exporter where
  settings : Settings
  monitor : Monitor := {}

/-- What a scrape shows: its own families, and those of the monitor after it. -/
structure Page where
  scrape : Scrape
  current : List Family
  cumulative : List Family

namespace Page

/-- All families, those of the scrape first. -/
def families (p : Page) : List Family := p.current ++ p.cumulative

/-- The exposition of a scrape. -/
def text (p : Page) : Except ExpositionError String := Exposition.encode p.families

end Page

namespace Exporter

/-- Enters a collector's run. -/
def recordRun (m : Monitor) (r : CollectorRun) : Monitor :=
  m.conclude { collector := r.collector.name, started := r.started } r.run.ended r.succeeded

/-- The monitor after a scrape. -/
def remember (m : Monitor) (s : Scrape) : Monitor :=
  (s.runs.foldl recordRun m.countScrape).setMetrics (Scrape.seriesCount s.families)

/-- One scrape of a server with the log `log`, from `now` on and with a budget of time. -/
def scrape (e : Exporter) (server : Server) (log : Log) (now budget : Duration) :
    Exporter × Page :=
  let deadline := Scrape.deadlineAt now budget Settings.defaultBudget
  let s := Scrape.run e.settings.collectors server log now deadline
  let monitor := remember e.monitor s
  ({ e with monitor }, ⟨s, s.families, monitor.families⟩)

end Exporter

end MysqlMetrics
