import MysqlMetrics.Monitor.Basic

/-!
# Sessions with a monitor

A session is a monitor in use: timers that run, each under an identifier, and the families of the
monitor that are published. A timer ends by success, by error or by being given up; starting a timer
under an identifier in use gives the older one up. Families are published one by one, and one that
is published already is a fault.

All handles on a monitor share what it remembers, so an operation may go through any of them.

* `Session.publish` publishes families up to the first fault.
* `Session.apply` carries out one operation; `Session.run` a list of them.
-/

namespace MysqlMetrics

/-- How a timer ends. -/
inductive Ending where
  | success
  | error
  | givenUp
  deriving DecidableEq, Repr

/-- A handle on a monitor: the first one or a copy of it. -/
inductive Handle where
  | first
  | copy (number : Nat)
  deriving DecidableEq, Repr

/-- What can be done with a monitor. -/
inductive Operation where
  | publish
  | start (id collector : String)
  | finish (id : String) (ending : Ending)
  | setMetrics (count : Int)
  | readMetrics
  | countScrape
  | gather
  deriving DecidableEq, Repr

/-- What an operation answers. -/
inductive Response where
  | done
  | alreadyPublished
  | started
  | replaced
  | ended
  | noSuchTimer
  | metrics (count : Int)
  | gathered (families : List Family)
  deriving DecidableEq

/-- The wording of a second publication's fault. -/
def Response.duplicateMessage : String := "Duplicate metrics collector registration attempted"

/-- A monitor, its running timers, newest first, and the names of its families that are
published. -/
structure Session where
  monitor : Monitor := {}
  timers : List (String × Timer) := []
  published : List String := []
  deriving DecidableEq, Repr

namespace Session

/-- The running timer of an identifier. -/
def timer? (s : Session) (id : String) : Option Timer :=
  (s.timers.find? (·.1 == id)).map Prod.snd

/-- The timers without those of an identifier. -/
def without (s : Session) (id : String) : List (String × Timer) :=
  s.timers.filter fun t => t.1 ≠ id

/-- The monitor after a timer ended. -/
def close (m : Monitor) (t : Timer) (now : Duration) : Ending → Monitor
  | .success => m.conclude t now true
  | .error => m.conclude t now false
  | .givenUp => m.discard t now

/-- Ends the timer of an identifier. -/
def finish (s : Session) (now : Duration) (id : String) (ending : Ending) : Session :=
  match s.timer? id with
  | none => s
  | some t => { s with monitor := close s.monitor t now ending, timers := s.without id }

/-- Starts a timer, giving up an older one of the same identifier. -/
def start (s : Session) (now : Duration) (id collector : String) : Session :=
  let s := s.finish now id .givenUp
  { s with timers := (id, { collector, started := now }) :: s.timers }

/-- The names of a monitor's families in the order in which they are published. -/
def familyOrder : List String :=
  ["mysql_exporter_collector_scrape_duration_seconds",
    "mysql_exporter_collector_scrape_errors_total",
    "mysql_exporter_collector_last_scrape_timestamp_seconds",
    "mysql_exporter_metrics_total",
    "mysql_exporter_scrapes_total"]

/-- Publishes families one after another. The first one that is published already is a fault; those
before it stay published. -/
def publish (s : Session) : List String → Session × Response
  | [] => (s, .done)
  | name :: rest =>
    if name ∈ s.published then (s, .alreadyPublished)
    else publish { s with published := s.published ++ [name] } rest

/-- What is shown of the monitor: the families that are published. -/
def shown (s : Session) : List Family := s.monitor.families.filter fun f => f.name ∈ s.published

/-- Carries out an operation at a time, through any handle. -/
def apply (s : Session) (now : Duration) (_through : Handle) : Operation → Session × Response
  | .publish => s.publish familyOrder
  | .start id collector =>
    (s.start now id collector, if (s.timer? id).isSome then .replaced else .started)
  | .finish id ending =>
    (s.finish now id ending, if (s.timer? id).isSome then .ended else .noSuchTimer)
  | .setMetrics n => ({ s with monitor := s.monitor.setMetrics n }, .metrics n)
  | .readMetrics => (s, .metrics s.monitor.metricsTotal)
  | .countScrape => ({ s with monitor := s.monitor.countScrape }, .done)
  | .gather => (s, .gathered s.shown)

/-- Carries out operations in order, with the answer to each. -/
def run (s : Session) : List (Duration × Handle × Operation) → Session × List Response
  | [] => (s, [])
  | (now, through, op) :: rest =>
    let (s, response) := s.apply now through op
    let (s, responses) := run s rest
    (s, response :: responses)

end Session

end MysqlMetrics
