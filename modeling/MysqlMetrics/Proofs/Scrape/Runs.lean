import Mathlib.Data.List.Nodup
import MysqlMetrics.Scrape.Exporter
import MysqlMetrics.Proofs.Collector.Schema
import MysqlMetrics.Proofs.Collector.Timing

/-!
# Runs of a scrape

A scrape asks for the version and then runs its collectors, each on the log that the ones before it
left. Their texts are disjoint, so each run is what it would be if the collector were alone.

* `Scrape.Reports`: the server tells its version in time, which means by the alarm
  (`reports_iff`). Whether it does decides all that follows (`run_of_silent`, `run_of_reports`,
  `up_run`).
* `Scrape.alone`: a collector's run by itself; `runCollectors_eq_map`: a scrape has no other runs.
* `Scrape.Sound`: what the runs of every scrape have in common (`sound_scrape`).
-/

namespace MysqlMetrics

namespace Settings

theorem mem_collectors {s : Settings} {c : Collector} : c ∈ s.collectors ↔ c.name ∈ s.enabled := by
  simp [collectors, isEnabled, Collector.mem_all]

theorem collectors_nodup (s : Settings) : s.collectors.Nodup :=
  List.Pairwise.filter _ (by decide : Collector.all.Nodup)

end Settings

namespace Scrape

/-! ## The version -/

/-- The server names its version, in time or not: the reply to the version query has a first row,
and that row has this text in its first column. -/
def Names (server : Server) (log : Log) (text : String) : Prop :=
  ∃ column columns cells others, (server.answer log versionSql).result =
    .ok ⟨column :: columns, (some text :: cells) :: others⟩

/-- The server tells its version in time: it names it, and the reply is not late. A reply is late if
it takes time and arrives after the alarm, which is the deadline rounded up to a whole millisecond.
One that arrives between the two is not late, and one without delay never is. -/
def Reports (server : Server) (log : Log) (now deadline : Duration) (text : String) : Prop :=
  Deadline.isMissed (some deadline) now (server.answer log versionSql).delay = false ∧
    Names server log text

/-- The time at which the reply to the version query is there. -/
def replied (server : Server) (log : Log) (now : Duration) : Duration :=
  ⟨now.nanoseconds + (server.answer log versionSql).delay.nanoseconds⟩

/-- A scrape does not begin after its deadline. -/
theorem le_deadlineAt (now budget fallback : Duration) :
    now.nanoseconds ≤ (deadlineAt now budget fallback).nanoseconds := by
  unfold deadlineAt
  split
  · exact Nat.le_add_right _ _
  · exact Nat.le_add_right _ _

theorem le_alarm (now budget fallback : Duration) :
    now.nanoseconds ≤ (deadlineAt now budget fallback).ceilMilliseconds.nanoseconds :=
  Nat.le_trans (le_deadlineAt now budget fallback) (Duration.ceilMilliseconds_bounds _).1

theorem firstCell?_eq_some {rows : RowSet} {text : String} :
    firstCell? rows = some text ↔ ∃ column columns cells others,
      rows = ⟨column :: columns, (some text :: cells) :: others⟩ := by
  obtain ⟨columns, cells⟩ := rows
  rcases cells with _ | ⟨row, others⟩
  · simp [firstCell?, RowSet.rows]
  rcases columns with _ | ⟨column, columns⟩
  · simp [firstCell?, RowSet.rows, Row.pairs]
  rcases row with _ | ⟨cell, row⟩
  · simp [firstCell?, RowSet.rows, Row.pairs, Row.cell?]
  · simp [firstCell?, RowSet.rows, Row.pairs, Row.cell?]

section Probe

variable {server : Server} {log : Log} {now deadline : Duration} {text : String}

theorem executed_probe (deadline : Deadline) :
    (Fetch.run server deadline log now [versionSql]).executed = [versionSql] := by
  simp only [Fetch.run, Fetch.firstSuccess]
  split
  · rfl
  · split <;> rfl

theorem versionText?_probe :
    versionText? (Fetch.run server (some deadline) log now [versionSql]) = some text ↔
      Reports server log now deadline text := by
  simp only [Fetch.run, Fetch.firstSuccess, Reports, Names]
  split
  · rename_i hmissed
    simp [versionText?, hmissed]
  · rename_i hmissed
    cases hreply : (server.answer log versionSql).result with
    | ok rows => simp [versionText?, hmissed, firstCell?_eq_some]
    | error e => simp [versionText?]

theorem ended_probe (h : Reports server log now deadline text) :
    (Fetch.run server (some deadline) log now [versionSql]).ended = replied server log now := by
  obtain ⟨hmissed, column, columns, cells, others, hreply⟩ := h
  simp [Fetch.run, Fetch.firstSuccess, hmissed, hreply, replied]

/-- The version is told in time if it is there at the alarm. -/
theorem reports_iff (hnow : now.nanoseconds ≤ deadline.ceilMilliseconds.nanoseconds) :
    Reports server log now deadline text ↔
      (replied server log now).nanoseconds ≤ deadline.ceilMilliseconds.nanoseconds ∧
        Names server log text := by
  refine and_congr ?_ Iff.rfl
  rw [Bool.eq_false_iff, ne_eq, Deadline.isMissed_iff_lt hnow]
  exact Nat.not_lt

end Probe

/-! ## The runs -/

theorem versionSql_not_mem_attempts (c : Collector) : versionSql ∉ c.attempts := by
  cases c <;> decide

/-- A collector's run by itself, from a time on. -/
def alone (server : Server) (deadline : Duration) (log : Log) (start : Duration) (c : Collector) :
    CollectorRun :=
  ⟨c, start, c.collect server (some deadline) log start⟩

/-- **Runs do not interfere.** Each run of a scrape is that of the collector by itself: what the
others execute before it is of no account. -/
theorem runCollectors_eq_map (server : Server) (deadline start : Duration) (log : Log)
    {cs : List Collector} (hcs : cs.Nodup) {earlier : Log}
    (h : ∀ c ∈ cs, ∀ sql ∈ earlier, sql ∉ c.attempts) :
    runCollectors server (some deadline) start (log ++ earlier) cs =
      cs.map (alone server deadline log start) := by
  induction cs generalizing earlier with
  | nil => rfl
  | cons c rest ih =>
    rw [List.nodup_cons] at hcs
    have hagree := Server.AgreeOn.of_append server log (h c (by simp))
    have hrun := Collector.collect_congr hagree (some deadline) start
    simp only [runCollectors, hrun, List.map_cons, alone]
    rw [List.append_assoc, ih hcs.2]
    intro d hd sql hsql hmem
    rcases List.mem_append.mp hsql with hsql | hsql
    · exact h d (by simp [hd]) sql hsql hmem
    · have := Collector.eq_of_mem_attempts (Collector.mem_attempts_of_mem_executed hsql) hmem
      exact hcs.1 (this ▸ hd)

/-- The collectors among `enabled` that a scrape runs on a server of this version. -/
def running (enabled : List Collector) (text : String) : List Collector :=
  enabled.filter (allows (Version.read text.toList).ordinal)

section Run

variable {enabled : List Collector} {server : Server} {log : Log} {now deadline : Duration}

/-- A server that does not tell its version is asked nothing else. -/
theorem run_of_silent (enabled : List Collector)
    (h : ∀ text, ¬ Reports server log now deadline text) :
    ∃ ended, run enabled server log now deadline = ⟨false, [versionSql], [], ended⟩ := by
  have hnone : versionText? (Fetch.run server (some deadline) log now [versionSql]) = none := by
    rw [Option.eq_none_iff_forall_ne_some]
    exact fun text ht => h text (versionText?_probe.mp ht)
  simp only [run, hnone, executed_probe]
  exact ⟨_, rfl⟩

theorem run_of_reports (hnd : enabled.Nodup) {text : String}
    (h : Reports server log now deadline text) :
    let runs := (running enabled text).map (alone server deadline log (replied server log now))
    run enabled server log now deadline =
      ⟨true, versionSql :: runs.flatMap (·.run.executed), runs,
        lastEnd (replied server log now) runs⟩ := by
  have hother : ∀ c ∈ running enabled text, ∀ sql ∈ [versionSql], sql ∉ c.attempts :=
    fun c _ sql hsql => List.mem_singleton.mp hsql ▸ versionSql_not_mem_attempts c
  have hruns := runCollectors_eq_map server deadline (replied server log now) log
    (hnd.filter (allows (Version.read text.toList).ordinal)) hother
  simp only [run, versionText?_probe.mpr h, executed_probe, ended_probe h, hruns, running,
    List.singleton_append]

/-- A scrape has a run for each collector that is enabled and allowed, in their order. -/
theorem collectors_run (hnd : enabled.Nodup) {text : String}
    (h : Reports server log now deadline text) :
    (run enabled server log now deadline).runs.map (·.collector) = running enabled text := by
  rw [run_of_reports hnd h, List.map_map]
  exact List.map_id' _

/-- The server is up exactly if it tells its version. -/
theorem up_run (hnd : enabled.Nodup) :
    (run enabled server log now deadline).up = true ↔
      ∃ text, Reports server log now deadline text := by
  by_cases h : ∃ text, Reports server log now deadline text
  · obtain ⟨text, ht⟩ := h
    simp only [run_of_reports hnd ht, true_iff]
    exact ⟨text, ht⟩
  · obtain ⟨ended, hrun⟩ := run_of_silent enabled (not_exists.mp h)
    simp [hrun, h]

end Run

/-! ## The runs of one collector -/

/-- The runs of a collector in a scrape; there is one at most. -/
def runsOf (s : Scrape) (c : Collector) : List CollectorRun :=
  s.runs.filter fun r => r.collector = c

section RunsOf

variable {enabled : List Collector} {server : Server} {log : Log} {now deadline : Duration}

/-- A collector that is enabled and allowed has the run that it has by itself, any other has
none. -/
theorem runsOf_run (hnd : enabled.Nodup) {text : String} (h : Reports server log now deadline text)
    (c : Collector) :
    (run enabled server log now deadline).runsOf c =
      if c ∈ running enabled text then [alone server deadline log (replied server log now) c]
      else [] := by
  have hruns := run_of_reports hnd h
  have hnd : (running enabled text).Nodup := hnd.filter _
  have hfilter : (running enabled text).filter (fun d => decide (d = c)) =
      if c ∈ running enabled text then [c] else [] := by
    rw [List.filter_eq]
    split
    · rename_i hc
      rw [List.count_eq_one_of_mem hnd hc, List.replicate_one]
    · rename_i hc
      rw [List.count_eq_zero.mpr hc, List.replicate_zero]
  have hcollector (d : Collector) :
      (alone server deadline log (replied server log now) d).collector = d := rfl
  simp only [runsOf, hruns, List.filter_map, Function.comp_def, hcollector, hfilter]
  split <;> rfl

theorem runsOf_run_of_silent (h : ∀ text, ¬ Reports server log now deadline text) (c : Collector) :
    (run enabled server log now deadline).runsOf c = [] := by
  obtain ⟨ended, hrun⟩ := run_of_silent enabled h
  rw [hrun]
  rfl

/-- A collector has no run in the scrape, or one that is out of time or ends as it does by itself
without a deadline. -/
theorem runsOf_cases (hnd : enabled.Nodup) (c : Collector) (start : Duration) :
    (run enabled server log now deadline).runsOf c = [] ∨
      ∃ r, (run enabled server log now deadline).runsOf c = [r] ∧
        (r.run.outcome = .timedOut ∨
          r.run.outcome = (c.collect server none log start).outcome) := by
  by_cases h : ∃ text, Reports server log now deadline text
  · obtain ⟨text, ht⟩ := h
    rw [runsOf_run hnd ht]
    split
    · exact .inr ⟨_, rfl, c.collect_outcome_eq_or_timedOut server (some deadline) log _ start⟩
    · exact .inl rfl
  · exact .inl (runsOf_run_of_silent (not_exists.mp h) c)

end RunsOf

/-! ## What all scrapes have in common -/

/-- No collector has two runs in the scrape, each sends samples of its own form, and its texts are
executed by its run alone. -/
structure Sound (s : Scrape) : Prop where
  distinct : (s.runs.map (·.collector)).Nodup
  sends : ∀ r ∈ s.runs, ∀ t ∈ r.run.outcome.samples, r.collector.Sends t
  executed : ∀ c : Collector,
    (s.executed.filter fun sql => sql ∈ c.attempts) = (s.runsOf c).flatMap (·.run.executed)

private theorem filter_attempts_runs {runs : List CollectorRun} (c : Collector)
    (h : ∀ r ∈ runs, ∀ sql ∈ r.run.executed, sql ∈ r.collector.attempts) :
    ((runs.flatMap (·.run.executed)).filter fun sql => sql ∈ c.attempts) =
      (runs.filter fun r => r.collector = c).flatMap (·.run.executed) := by
  induction runs with
  | nil => rfl
  | cons r rest ih =>
    have hrest := ih fun r' hr' => h r' (List.mem_cons_of_mem r hr')
    rw [List.flatMap_cons, List.filter_append, hrest]
    by_cases hc : r.collector = c
    · have hall : (r.run.executed.filter fun sql => sql ∈ c.attempts) = r.run.executed :=
        List.filter_eq_self.mpr fun sql hsql =>
          decide_eq_true (hc ▸ h r List.mem_cons_self sql hsql)
      simp [hall, hc]
    · have hnone : (r.run.executed.filter fun sql => sql ∈ c.attempts) = [] := by
        refine List.filter_eq_nil_iff.mpr fun sql hsql hmem => hc ?_
        exact Collector.eq_of_mem_attempts (h r List.mem_cons_self sql hsql)
          (of_decide_eq_true hmem)
      simp [hnone, hc]

theorem sound_run {enabled : List Collector} (hnd : enabled.Nodup) (server : Server) (log : Log)
    (now deadline : Duration) : (run enabled server log now deadline).Sound := by
  have hversion (c : Collector) : decide (versionSql ∈ c.attempts) = false :=
    decide_eq_false (versionSql_not_mem_attempts c)
  by_cases h : ∃ text, Reports server log now deadline text
  · obtain ⟨text, ht⟩ := h
    have hdistinct : ((run enabled server log now deadline).runs.map (·.collector)).Nodup := by
      rw [collectors_run hnd ht]
      exact hnd.filter _
    refine ⟨hdistinct, ?_, ?_⟩ <;> rw [run_of_reports hnd ht]
    · intro r hr t ht
      obtain ⟨c, -, rfl⟩ := List.mem_map.mp hr
      exact Collector.sends_collect ht
    · intro c
      simp only [List.filter_cons, hversion, Bool.false_eq_true, if_false]
      refine filter_attempts_runs c fun r hr sql hsql => ?_
      obtain ⟨d, -, rfl⟩ := List.mem_map.mp hr
      exact Collector.mem_attempts_of_mem_executed hsql
  · obtain ⟨ended, hrun⟩ := run_of_silent enabled (not_exists.mp h)
    rw [hrun]
    refine ⟨List.nodup_nil, by simp, fun c => ?_⟩
    simp [hversion, runsOf]

/-- Every scrape of an exporter is sound, whatever its settings and the server. -/
theorem sound_scrape (e : Exporter) (server : Server) (log : Log) (now budget : Duration) :
    (e.scrape server log now budget).2.scrape.Sound :=
  sound_run e.settings.collectors_nodup server log now _

end Scrape

end MysqlMetrics
