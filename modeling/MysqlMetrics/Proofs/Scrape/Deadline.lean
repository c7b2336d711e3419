import MysqlMetrics.Proofs.Collector.Timing
import MysqlMetrics.Proofs.Scrape.Cycle
import MysqlMetrics.Proofs.Scrape.History

/-!
# Scrapes against a deadline

A scrape has a deadline, and its alarm goes off at the first whole millisecond that is not before
it. If the version is not there by then, the scrape is over. If it is, each collector does what it
would do by itself without a deadline, up to its first reply that is late: then it has failed, and
nothing that it was told before is shown.

* `Scrape.outcome_probe`, `Scrape.run_up`: the probe and the alarm.
* `Scrape.ended_run_le`: the scrape is over at the alarm.
* `Scrape.Tells`: what a scrape tells of one collector, in its block and through the monitor.
  `Scrape.Sound.tells` reads it off the collector's run; `Scrape.tells_of_punctual` and
  `Scrape.tells_of_cut` compare it with the run without a deadline.
* `Exporter.cut_at_alarm`: the whole scrape. `Exporter.answered_between_ticks`: a reply that arrives
  after the deadline, but not after the alarm.
-/

namespace MysqlMetrics

namespace Scrape

/-! ## The probe -/

section Probe

variable {enabled : List Collector} {server : Server} {log : Log} {now deadline : Duration}

/-- A reply that is there at the alarm is the one that comes without a deadline. -/
theorem probe_of_le (h : (replied server log now).nanoseconds ≤
    deadline.ceilMilliseconds.nanoseconds) :
    Fetch.run server (some deadline) log now [versionSql] =
      Fetch.run server none log now [versionSql] := by
  have hnow := Nat.le_trans (Nat.le_add_right _ _) h
  have hmissed := mt (Deadline.isMissed_iff_lt hnow).mp (Nat.not_lt.mpr h)
  simp only [Fetch.run, Fetch.firstSuccess, if_neg hmissed, if_neg (Fetch.not_isMissed_none _ _)]

theorem ended_free_probe : (Fetch.run server none log now [versionSql]).ended =
    replied server log now := by
  simp only [Fetch.run, Fetch.firstSuccess, if_neg (Fetch.not_isMissed_none _ _)]
  split
  · rfl
  · rfl

/-- The probe is out of time if its reply arrives after the alarm. -/
theorem outcome_probe (hnow : now.nanoseconds ≤ deadline.ceilMilliseconds.nanoseconds) :
    (Fetch.run server (some deadline) log now [versionSql]).outcome = .timedOut ↔
      deadline.ceilMilliseconds.nanoseconds < (replied server log now).nanoseconds := by
  rw [← ended_free_probe]
  exact Fetch.outcome_eq_timedOut_iff hnow

theorem run_up : (run enabled server log now deadline).up =
    (versionText? (Fetch.run server (some deadline) log now [versionSql])).isSome := by
  simp only [run]
  split
  · rename_i h
    rw [h]
    rfl
  · rename_i h
    rw [h]
    rfl

/-! ## The end of a scrape -/

/-- A scrape is over at the alarm. -/
theorem ended_run_le (hnd : enabled.Nodup)
    (hnow : now.nanoseconds ≤ deadline.ceilMilliseconds.nanoseconds) :
    (run enabled server log now deadline).ended.nanoseconds ≤
      deadline.ceilMilliseconds.nanoseconds := by
  cases hversion : versionText? (Fetch.run server (some deadline) log now [versionSql]) with
  | none =>
    simp only [run, hversion]
    exact Fetch.ended_le hnow
  | some text =>
    have hreports := versionText?_probe.mp hversion
    have hreplied := ((reports_iff hnow).mp hreports).1
    rw [run_of_reports hnd hreports]
    refine lastEnd_le_iff.mpr ⟨hreplied, fun r hr => ?_⟩
    obtain ⟨c, -, rfl⟩ := List.mem_map.mp hr
    exact Collector.ended_collect_le hreplied

end Probe

/-! ## What a scrape tells of a collector -/

/-- What a scrape that leads from one monitor to another tells of a collector: the texts executed
for it; the samples that it sent, which arrive as they are in any order of arrival, and their
families; and whether it succeeded. Its success and its duration are shown once, and one more error
is counted unless it succeeded. -/
structure Tells (s : Scrape) (before after : Monitor) (c : Collector) (executed : Log)
    (samples : List Sample) (succeeded : Bool) : Prop where
  executed : (s.executed.filter fun sql => sql ∈ c.attempts) = executed
  sent : ((s.runsOf c).flatMap fun r => r.run.outcome.samples) = samples
  arrived : ∀ order, s.Arrives order → (order.filter fun t => c.owns t.name) = samples
  families : ∀ block, s.Shows block →
    (block.filter fun f => c.owns f.name) = Family.ofSamples samples
  success : ∀ block, s.Shows block →
    Family.readings block "mysql_exporter_collector_success" [("collector", c.name)] =
      [.single (if succeeded then 1 else 0)]
  duration : ∀ block, s.Shows block → ∃ seconds,
    Family.readings block "mysql_exporter_collector_duration_seconds" [("collector", c.name)] =
      [.single seconds]
  errors : Monitor.errorCount (after.record? c.name) =
    Monitor.errorCount (before.record? c.name) + if succeeded then 0 else 1

/-- A scrape tells of a collector what its run did. -/
theorem Sound.tells {s : Scrape} (hs : s.Sound) {c : Collector} {r : CollectorRun}
    (hruns : s.runsOf c = [r]) (m : Monitor) :
    s.Tells m (Exporter.remember m s) c r.run.executed r.run.outcome.samples r.succeeded where
  executed := by rw [hs.executed c, hruns, List.flatMap_singleton]
  sent := by rw [hruns, List.flatMap_singleton]
  arrived order h := by rw [hs.filter_owns h, hruns, List.flatMap_singleton]
  families := by
    rintro _ ⟨order, h, rfl⟩
    rw [hs.filter_families h, hruns, List.flatMap_singleton]
  success := by
    rintro _ ⟨order, h, rfl⟩
    have hshown := hs.readings_success h c
    rw [hruns] at hshown
    exact hshown
  duration := by
    rintro _ ⟨order, h, rfl⟩
    have hshown := hs.readings_duration h c
    rw [hruns] at hshown
    exact ⟨_, hshown⟩
  errors := by
    rw [Monitor.record?_remember, Monitor.errorCount_foldl, hruns, List.countP_singleton]
    cases r.succeeded
    · rfl
    · rfl

section Runs

variable {enabled : List Collector} {server : Server} {log : Log} {now deadline : Duration}
  {c : Collector}

/-- A collector that runs has been told the version in time, and its run is that by itself. -/
theorem runsOf_of_ne_nil (hnd : enabled.Nodup)
    (hc : (run enabled server log now deadline).runsOf c ≠ []) :
    (∃ text, Reports server log now deadline text) ∧
      (run enabled server log now deadline).runsOf c =
        [alone server deadline log (replied server log now) c] := by
  by_cases hreports : ∃ text, Reports server log now deadline text
  · obtain ⟨text, htext⟩ := hreports
    have hruns := runsOf_run hnd htext c
    refine ⟨⟨text, htext⟩, ?_⟩
    by_cases hrunning : c ∈ running enabled text
    · rwa [if_pos hrunning] at hruns
    · rw [if_neg hrunning] at hruns
      exact absurd hruns hc
  · exact absurd (runsOf_run_of_silent (not_exists.mp hreports) c) hc

variable (hnd : enabled.Nodup) (hc : (run enabled server log now deadline).runsOf c ≠ [])
  (m : Monitor)
include hnd hc

/-- A collector without a late reply does what it does by itself without a deadline. -/
theorem tells_of_punctual (h : ∀ i, ¬ IsLate deadline.ceilMilliseconds (replied server log now)
    (server.delays log (c.collect server none log (replied server log now)).executed) i) :
    (run enabled server log now deadline).Tells m
      (Exporter.remember m (run enabled server log now deadline)) c
      (c.collect server none log (replied server log now)).executed
      (c.collect server none log (replied server log now)).outcome.samples
      (c.collect server none log (replied server log now)).outcome.succeeded := by
  have htells := (sound_run hnd server log now deadline).tells (runsOf_of_ne_nil hnd hc).2 m
  have hrun : (alone server deadline log (replied server log now) c).run =
      c.collect server none log (replied server log now) := Collector.collect_of_punctual h
  rwa [CollectorRun.succeeded, hrun] at htells

/-- A collector with a late reply executes its texts up to the first one, and has failed. -/
theorem tells_of_cut (hnow : now.nanoseconds ≤ deadline.ceilMilliseconds.nanoseconds) {i : Nat}
    (h : IsCut deadline.ceilMilliseconds (replied server log now)
      (server.delays log (c.collect server none log (replied server log now)).executed) i) :
    (run enabled server log now deadline).Tells m
      (Exporter.remember m (run enabled server log now deadline)) c
      ((c.collect server none log (replied server log now)).executed.take (i + 1)) [] false := by
  obtain ⟨⟨text, htext⟩, hruns⟩ := runsOf_of_ne_nil hnd hc
  have htells := (sound_run hnd server log now deadline).tells hruns m
  have hrun : (alone server deadline log (replied server log now) c).run =
      ⟨(c.collect server none log (replied server log now)).executed.take (i + 1),
        deadline.ceilMilliseconds, .timedOut⟩ :=
    Collector.collect_of_cut ((reports_iff hnow).mp htext).1 h
  rwa [CollectorRun.succeeded, hrun] at htells

end Runs

end Scrape

namespace Exporter

/-- **A deadline cuts at the alarm.** Let a scrape have a deadline that the clock can show, and let
the alarm be the first whole millisecond that is not before it. The probe is out of time if its
reply arrives after the alarm, and then the server is shown to be down and nothing else is shown or
executed; otherwise it is up if the probe without a deadline gives a version. Every collector that
runs does what it does by itself without a deadline if none of its replies is late. Otherwise it
executes its texts up to the first late reply, sends nothing, and has failed. Replies without delay
are never late, and the scrape is over at the alarm. -/
theorem cut_at_alarm (e : Exporter) (server : Server) (log : Log) (now budget : Duration)
    (hclock : now.nanoseconds + budget.nanoseconds < Scrape.lastInstant) :
    let deadline : Duration := ⟨now.nanoseconds + budget.nanoseconds⟩
    let alarm := deadline.ceilMilliseconds
    let probe (deadline : Deadline) := Fetch.run server deadline log now [Scrape.versionSql]
    let start := Scrape.replied server log now
    let (e', page) := e.scrape server log now budget
    let s := page.scrape
    ((probe (some deadline)).outcome = .timedOut ↔ alarm.nanoseconds < start.nanoseconds) ∧
      (alarm.nanoseconds < start.nanoseconds → s.executed = [Scrape.versionSql] ∧ s.runs = [] ∧
        ∀ block, s.Shows block → block = [Scrape.upFamily 0]) ∧
      (start.nanoseconds ≤ alarm.nanoseconds →
        s.up = (Scrape.versionText? (probe none)).isSome ∧ ∀ block, s.Shows block →
          (block.filter fun f => f.name = "mysql_up") =
            [Scrape.upFamily (if s.up then 1 else 0)]) ∧
      (∀ c, s.runsOf c ≠ [] →
        let free := c.collect server none log start
        let delays := server.delays log free.executed
        (∀ i, IsCut alarm start delays i →
          s.Tells e.monitor e'.monitor c (free.executed.take (i + 1)) [] false) ∧
        ((∀ i, ¬ IsLate alarm start delays i) →
          s.Tells e.monitor e'.monitor c free.executed free.outcome.samples
            free.outcome.succeeded) ∧
        ((∀ d ∈ delays, d.nanoseconds = 0) → ∀ i, ¬ IsLate alarm start delays i)) ∧
      s.ended.nanoseconds ≤ alarm.nanoseconds := by
  intro deadline alarm probe start
  let s := Scrape.run e.settings.collectors server log now deadline
  have hscrape : e.scrape server log now budget =
      ({ e with monitor := remember e.monitor s },
        ⟨s, s.families, (remember e.monitor s).families⟩) := by
    have hdeadline : Scrape.deadlineAt now budget Settings.defaultBudget = deadline :=
      if_pos hclock
    rw [scrape, hdeadline]
  rw [hscrape]
  show (_ ↔ _) ∧ (_ → s.executed = _ ∧ s.runs = _ ∧ _) ∧ (_ → s.up = _ ∧ _) ∧
    (∀ c, s.runsOf c ≠ [] → _) ∧ s.ended.nanoseconds ≤ _
  have hnd := e.settings.collectors_nodup
  have hnow : now.nanoseconds ≤ alarm.nanoseconds :=
    Nat.le_trans (Nat.le_add_right _ _) deadline.ceilMilliseconds_bounds.1
  refine ⟨Scrape.outcome_probe hnow, fun hlate => ?_, fun hintime => ⟨?_, ?_⟩, fun c hc => ?_,
    Scrape.ended_run_le hnd hnow⟩
  · have hsilent : ∀ text, ¬ Scrape.Reports server log now deadline text := fun text ht =>
      Nat.not_lt.mpr ((Scrape.reports_iff hnow).mp ht).1 hlate
    obtain ⟨ended, hrun⟩ := Scrape.run_of_silent e.settings.collectors hsilent
    exact ⟨congrArg Scrape.executed hrun, congrArg Scrape.runs hrun, fun block hblock =>
      Scrape.block_of_silent hsilent hblock⟩
  · rw [Scrape.run_up, Scrape.probe_of_le hintime]
  · rintro _ ⟨order, harrives, rfl⟩
    exact (Scrape.sound_run hnd server log now deadline).named_up harrives
  · exact ⟨fun i => Scrape.tells_of_cut hnd hc e.monitor hnow,
      Scrape.tells_of_punctual hnd hc e.monitor, fun hzero i => not_isLate_of_forall_zero hzero⟩

/-- A server that tells its version and refuses everything else, each after a tenth of a second. -/
def hesitant : Server :=
  .ofReplies fun sql =>
    if sql = Scrape.versionSql then
      [{ result := .ok ⟨["VERSION()"], [[some "8.0.36"]]⟩, delay := .ofMilliseconds 100 }]
    else [{ result := .error (.refused (Server.syntaxError sql)), delay := .ofMilliseconds 100 }]

/-- The third text that is tried for the state of replication is the last one executed. -/
theorem cut_at_alarm_hesitant :
    let e : Exporter := { settings := { enabled := ["slave_status"] } }
    let (e', page) := e.scrape hesitant [] ⟨0⟩ (.ofMilliseconds 350)
    page.scrape.Tells e.monitor e'.monitor .replication (Collector.replication.attempts.take 3) []
        false ∧
      page.scrape.ended.nanoseconds ≤ (Duration.ofMilliseconds 350).nanoseconds := by
  intro e
  obtain ⟨-, -, -, hruns, hended⟩ :=
    cut_at_alarm e hesitant [] ⟨0⟩ (.ofMilliseconds 350) (by decide)
  obtain ⟨hcut, -, -⟩ := hruns .replication (List.ne_nil_of_length_pos (by decide))
  exact ⟨hcut 2 ⟨by decide, by decide⟩, hended⟩

/-- A server that tells its version after 101 milliseconds, and one of its variables at once. -/
def tardy : Server :=
  .ofReplies fun sql =>
    if sql = Scrape.versionSql then
      [{ result := .ok ⟨["v"], [[some "8.0"]]⟩, delay := .ofMilliseconds 101 }]
    else [{ result := .ok ⟨["Variable_name", "Value"], [[some "Uptime", some "1"]]⟩ }]

theorem delay_tardy (log : Log) (sql : String) : (tardy.answer log sql).delay =
    if sql = Scrape.versionSql then .ofMilliseconds 101 else ⟨0⟩ := by
  unfold tardy Server.answer Server.ofReplies
  split
  · rename_i hsql
    subst hsql
    rcases log.count Scrape.versionSql with _ | n
    · rfl
    · rfl
  · rename_i hsql
    simp only [if_neg hsql]
    rcases log.count sql with _ | n
    · rfl
    · rfl

/-- A reply after the deadline is in time if no whole millisecond lies between them. -/
theorem answered_between_ticks :
    let deadline : Duration := ⟨100500000⟩
    let page := (Exporter.scrape { settings := { enabled := ["global_status"] } } tardy [] ⟨0⟩
      deadline).2
    deadline.nanoseconds < Scrape.lastInstant ∧
      (∀ log sql, (tardy.answer log sql).delay =
        if sql = Scrape.versionSql then .ofMilliseconds 101 else ⟨0⟩) ∧
      deadline.nanoseconds < (Scrape.replied tardy [] ⟨0⟩).nanoseconds ∧
      page.scrape.up = true ∧
      (∀ block, page.scrape.Shows block →
        (block.filter fun f => f.name = "mysql_up") = [Scrape.upFamily 1]) ∧
      deadline.nanoseconds < page.scrape.ended.nanoseconds := by
  intro deadline page
  have hup : page.scrape.up = true := by decide
  refine ⟨by decide, delay_tardy, by decide, hup, ?_, by decide⟩
  rintro _ ⟨order, harrives, rfl⟩
  have hs : page.scrape.Sound := Scrape.sound_scrape _ tardy [] ⟨0⟩ deadline
  have hshown := hs.named_up harrives
  rw [hup] at hshown
  exact hshown

end Exporter

end MysqlMetrics
