import MysqlMetrics.Proofs.Scrape.Status

/-!
# The course of a scrape

Whether the server tells its version in time decides the whole scrape. If not, the scrape shows that
the server is down and nothing else. If so, it runs the collectors that are switched on and allowed
by the version, each of them once, and shows of each whether it succeeded in time.

In time is what is there by the alarm, the first whole millisecond that is not before the deadline.

* `Scrape.block_of_silent`: the block of a server that does not tell its version.
* `Settings.running_collectors`: the collectors that run, in terms of the settings.
* `Exporter.course`: both cases, for any settings, server and deadline.
* `Exporter.up_after_deadline`: answers after the deadline, but not after the alarm.
-/

namespace MysqlMetrics

namespace Scrape

variable {enabled : List Collector} {server : Server} {log : Log} {now deadline : Duration}

/-- A scrape without runs shows whether the server is up and nothing else. -/
theorem block_of_runs_nil {s : Scrape} {block : List Family} (hruns : s.runs = [])
    (h : s.Shows block) : block = [upFamily (switch s.up)] := by
  obtain ⟨order, harrives, rfl⟩ := h
  have horder : order = [s.upSample] := by
    have hperm := harrives.perm
    rw [samples_eq, hruns] at hperm
    exact List.perm_singleton.mp hperm
  have haccepted : Sample.accepted [s.upSample] = [s.upSample] := rfl
  rw [horder, haccepted, Family.ofSamples_singleton s.isValid_upSample MetricType.noConfusion,
    series_upSample]
  rfl

theorem block_of_silent (h : ∀ text, ¬ Reports server log now deadline text) {block : List Family}
    (hblock : (run enabled server log now deadline).Shows block) : block = [upFamily 0] := by
  obtain ⟨ended, hrun⟩ := run_of_silent enabled h
  rw [hrun] at hblock
  exact block_of_runs_nil rfl hblock

/-- No text of a collector that does not run is executed. -/
theorem Sound.not_mem_executed {s : Scrape} (hs : s.Sound) {c : Collector} (h : s.runsOf c = [])
    {sql : String} (hsql : sql ∈ c.attempts) : sql ∉ s.executed := by
  intro hmem
  have hnone := hs.executed c
  rw [h, List.flatMap_nil, List.filter_eq_nil_iff] at hnone
  exact hnone sql hmem (decide_eq_true hsql)

end Scrape

/-- The collectors that run are those that are switched on and not ruled out by the version. -/
theorem Settings.running_collectors (s : Settings) (text : String) :
    Scrape.running s.collectors text = Collector.all.filter fun c =>
      c.name ∈ s.enabled ∧ ((Version.read text.toList).ordinal = 0 ∨
        c.minVersion ≤ (Version.read text.toList).ordinal) := by
  rw [Scrape.running, collectors, List.filter_filter]
  refine List.filter_congr fun c _ => ?_
  simp [Scrape.allows, isEnabled, Bool.and_comm]

/-- **The course of a scrape.** Let the alarm be the scrape's deadline rounded up to a whole
millisecond. The server is up, which is shown once, if the reply to the version query is there by
the alarm and has a text in the first column of its first row. If not, nothing else is shown and
nothing else is executed. If so, the success and the duration of each collector that is switched on
and allowed by the version are shown once, and no text of any other collector is executed. A
collector has succeeded if by itself, without a deadline, it succeeds by the alarm. What arrives at
the alarm itself is there in time, and so is all that comes without delay. -/
theorem Exporter.course (e : Exporter) (server : Server) (log : Log) (now budget : Duration) :
    let s := (e.scrape server log now budget).2.scrape
    let alarm := (Scrape.deadlineAt now budget Settings.defaultBudget).ceilMilliseconds
    let start := Scrape.replied server log now
    s.Shows (e.scrape server log now budget).2.current ∧ ∀ block, s.Shows block →
      (block.filter fun f => f.name = "mysql_up") = [Scrape.upFamily (if s.up then 1 else 0)] ∧
      (s.up = true ↔
        start.nanoseconds ≤ alarm.nanoseconds ∧ ∃ text, Scrape.Names server log text) ∧
      (s.up = false → block = [Scrape.upFamily 0] ∧ s.executed = ["SELECT VERSION()"]) ∧
      ∀ text, start.nanoseconds ≤ alarm.nanoseconds → Scrape.Names server log text →
        let ordinal := (Version.read text.toList).ordinal
        let running := Collector.all.filter fun c =>
          c.name ∈ e.settings.enabled ∧ (ordinal = 0 ∨ c.minVersion ≤ ordinal)
        let free (c : Collector) := c.collect server none log start
        (Family.seriesOf block "mysql_exporter_collector_success").Perm (running.map fun c =>
          ⟨[("collector", c.name)], .single
            (if (free c).outcome.succeeded ∧ (free c).ended.nanoseconds ≤ alarm.nanoseconds then 1
              else 0)⟩) ∧
        ((Family.seriesOf block "mysql_exporter_collector_duration_seconds").map
          Series.labels).Perm (running.map fun c => [("collector", c.name)]) ∧
        ∀ c, c ∉ running → ∀ sql ∈ c.attempts, sql ∉ s.executed := by
  intro s alarm start
  let deadline := Scrape.deadlineAt now budget Settings.defaultBudget
  have hs : s.Sound := Scrape.sound_scrape e server log now budget
  have hnd := e.settings.collectors_nodup
  have hnow : now.nanoseconds ≤ alarm.nanoseconds := Scrape.le_alarm now budget _
  have hup : s.up = true ↔ ∃ text, Scrape.Reports server log now deadline text :=
    Scrape.up_run hnd
  refine ⟨Scrape.shows_families _, fun block hblock => ⟨?_, ?_, fun hdown => ?_, ?_⟩⟩
  · obtain ⟨order, harrives, rfl⟩ := hblock
    exact hs.named_up harrives
  · rw [hup, ← exists_and_left]
    exact exists_congr fun text => Scrape.reports_iff hnow
  · have hsilent : ∀ text, ¬ Scrape.Reports server log now deadline text := fun text ht =>
      Bool.false_ne_true (hdown.symm.trans (hup.mpr ⟨text, ht⟩))
    obtain ⟨ended, hrun⟩ := Scrape.run_of_silent e.settings.collectors hsilent
    exact ⟨Scrape.block_of_silent hsilent hblock, congrArg Scrape.executed hrun⟩
  · intro text hstart hnames ordinal running free
    have ht : Scrape.Reports server log now deadline text :=
      (Scrape.reports_iff hnow).mpr ⟨hstart, hnames⟩
    have hrunning : Scrape.running e.settings.collectors text = running :=
      e.settings.running_collectors text
    have hrun := Scrape.run_of_reports hnd ht
    have hruns : s.runs = running.map (Scrape.alone server deadline log start) :=
      hrunning ▸ congrArg Scrape.runs hrun
    obtain ⟨order, harrives, rfl⟩ := hblock
    refine ⟨?_, ?_, fun c hc sql hsql => ?_⟩
    · have hvalue (c : Collector) :
          Scrape.switch (Scrape.alone server deadline log start c).succeeded =
            if (free c).outcome.succeeded ∧ (free c).ended.nanoseconds ≤ alarm.nanoseconds then 1
            else 0 :=
        if_congr (Collector.succeeded_collect_iff hstart) rfl rfl
      have hsuccess := hs.seriesOf_success harrives
      rw [hruns, List.map_map] at hsuccess
      refine hsuccess.trans (List.Perm.of_eq (List.map_congr_left fun c _ => ?_))
      exact congrArg (fun value => Series.mk _ (.single value)) (hvalue c)
    · have hduration := (hs.seriesOf_duration harrives).map Series.labels
      rw [hruns, List.map_map, List.map_map] at hduration
      exact hduration
    · have hnone : s.runsOf c = [] := by
        have := Scrape.runsOf_run hnd ht c
        rwa [hrunning, if_neg hc] at this
      exact hs.not_mem_executed hnone hsql

/-- A server that takes 101 milliseconds to tell its version and a tenth of a second to tell its
status, lists its accounts at once and understands nothing else. -/
def unhurried : Server :=
  .ofReplies fun sql =>
    if sql = Scrape.versionSql then
      [{ result := .ok ⟨["VERSION()"], [[some "8.0.36"]]⟩, delay := .ofMilliseconds 101 }]
    else if sql = StatusVariables.sql then
      [{ result := .ok ⟨["Variable_name", "Value"], [[some "Uptime", some "1"]]⟩,
         delay := .ofMilliseconds 100 }]
    else if sql = Accounts.sql then [{ result := .ok ⟨["User", "Host"], []⟩ }]
    else []

/-- Of three collectors one is out of time, one is refused and one succeeds; with less time the
server is down. -/
theorem Exporter.course_unhurried :
    let e : Exporter := { settings := { enabled := ["user", "global_status", "nothing", "user",
      "master_status"] } }
    let up := (e.scrape unhurried [] ⟨0⟩ (.ofMilliseconds 150)).2
    let down := (e.scrape unhurried [] ⟨0⟩ (.ofMilliseconds 100)).2
    (Scrape.replied unhurried [] ⟨0⟩).nanoseconds ≤ (Duration.ofMilliseconds 150).nanoseconds ∧
      Scrape.Names unhurried [] "8.0.36" ∧
      (Family.seriesOf up.current "mysql_exporter_collector_success").Perm
        [⟨[("collector", "global_status")], .single 0⟩,
          ⟨[("collector", "master_status")], .single 0⟩, ⟨[("collector", "user")], .single 1⟩] ∧
      down.scrape.up = false ∧ down.current = [Scrape.upFamily 0] := by
  intro e up down
  have hnames : Scrape.Names unhurried [] "8.0.36" := ⟨"VERSION()", [], [], [], rfl⟩
  obtain ⟨hshown, hcourse⟩ := e.course unhurried [] ⟨0⟩ (.ofMilliseconds 150)
  obtain ⟨-, -, -, hup⟩ := hcourse _ hshown
  obtain ⟨hsuccess, -⟩ := hup "8.0.36" (by decide) hnames
  obtain ⟨hshown', hcourse'⟩ := e.course unhurried [] ⟨0⟩ (.ofMilliseconds 100)
  obtain ⟨-, -, hdown, -⟩ := hcourse' _ hshown'
  have hsilent : down.scrape.up = false := by decide
  exact ⟨by decide, hnames, hsuccess.trans (List.Perm.of_eq (by decide)), hsilent,
    (hdown hsilent).1⟩

/-- A server and a collector that answer after the deadline, but not after the alarm, are in
time. -/
theorem Exporter.up_after_deadline :
    let deadline : Duration := ⟨100500000⟩
    let s := (Exporter.scrape { settings := { enabled := ["user"] } } unhurried [] ⟨0⟩
      deadline).2.scrape
    let start := Scrape.replied unhurried [] ⟨0⟩
    Scrape.deadlineAt ⟨0⟩ deadline Settings.defaultBudget = deadline ∧
      deadline.nanoseconds < start.nanoseconds ∧
      deadline.nanoseconds <
        (Collector.accounts.collect unhurried none [] start).ended.nanoseconds ∧
      ∀ block, s.Shows block →
        (block.filter fun f => f.name = "mysql_up") = [Scrape.upFamily 1] ∧
        Family.readings block "mysql_exporter_collector_success" [("collector", "user")] =
          [.single 1] := by
  intro deadline s start
  have hs : s.Sound := Scrape.sound_scrape _ unhurried [] ⟨0⟩ deadline
  have hup : s.up = true := by decide
  have hruns : (s.runsOf .accounts).map CollectorRun.succeeded = [true] := by decide
  refine ⟨by decide, by decide, by decide, ?_⟩
  rintro _ ⟨order, harrives, rfl⟩
  have hshown := hs.named_up harrives
  have hsuccess := congrArg (List.map fun on => Reading.single (Scrape.switch on)) hruns
  rw [hup] at hshown
  rw [List.map_map] at hsuccess
  exact ⟨hshown, (hs.readings_success harrives .accounts).trans hsuccess⟩

end MysqlMetrics
