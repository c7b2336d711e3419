import MysqlMetrics.Proofs.Collector.BinaryLog
import MysqlMetrics.Proofs.Collector.StatusVariables
import MysqlMetrics.Proofs.Metric.Meaning
import MysqlMetrics.Proofs.Scrape.Page

/-!
# What pages show of a collector

From the answers of a server to the families of a page: what a page shows of a collector is what the
collector sends in the scrape, and that is nothing if it has no run or is out of time, and otherwise
what it brings in by itself.

* `Exporter.filter_owns`: the families that a collector owns.
* `Exporter.shows_status_variables`: those of the status variables.
* `Exporter.shows_binary_log`: those of the position in the binary log.
-/

namespace MysqlMetrics

namespace Exporter

section Sent

variable (e : Exporter) (server : Server) (log : Log) (now budget : Duration)

/-- The families of a page that a collector owns are those of the samples that it sent. -/
theorem filter_owns {block : List Family}
    (h : (e.scrape server log now budget).2.scrape.Shows block) (c : Collector) :
    let page := (e.scrape server log now budget).2
    ((block ++ page.cumulative).filter fun f => c.owns f.name) =
      Family.ofSamples ((page.scrape.runsOf c).flatMap (·.run.outcome.samples)) := by
  intro page
  obtain ⟨order, horder, rfl⟩ := h
  have hcumulative : page.cumulative = (e.scrape server log now budget).1.monitor.families := rfl
  rw [hcumulative, Monitor.filter_owns_block]
  exact (Scrape.sound_scrape e server log now budget).filter_families horder c

/-- The run of a collector, if it has one, is out of time or ends as the collector does by
itself. -/
theorem runsOf_cases (c : Collector) :
    let runs := (e.scrape server log now budget).2.scrape.runsOf c
    runs = [] ∨ ∃ r, runs = [r] ∧ (r.run.outcome = .timedOut ∨
      r.run.outcome = (c.collect server none log now).outcome) :=
  Scrape.runsOf_cases e.settings.collectors_nodup c now

variable {e server log now budget} {c : Collector}

/-- If its run succeeds, a collector sends what it brings in by itself. -/
theorem sent_of_succeeded {r : CollectorRun}
    (hr : r ∈ (e.scrape server log now budget).2.scrape.runsOf c) (h : r.succeeded = true) :
    let outcome := (c.collect server none log now).outcome
    outcome.succeeded = true ∧ ((e.scrape server log now budget).2.scrape.runsOf c).flatMap
      (·.run.outcome.samples) = outcome.samples := by
  intro outcome
  rcases e.runsOf_cases server log now budget c with hruns | ⟨r', hruns, houtcome⟩
  · rw [hruns] at hr
    cases hr
  rw [hruns, List.mem_singleton] at hr
  subst hr
  rcases houtcome with houtcome | houtcome
  · rw [CollectorRun.succeeded, houtcome] at h
    cases h
  · rw [CollectorRun.succeeded, houtcome] at h
    refine ⟨h, ?_⟩
    rw [hruns, List.flatMap_singleton, houtcome]

/-- If it has no run that succeeds, a collector sends nothing, or it fails by itself and sends what
it brings in then. -/
theorem sent_of_failed
    (h : ∀ r ∈ (e.scrape server log now budget).2.scrape.runsOf c, r.succeeded = false) :
    let sent := ((e.scrape server log now budget).2.scrape.runsOf c).flatMap
      (·.run.outcome.samples)
    let outcome := (c.collect server none log now).outcome
    sent = [] ∨ (outcome.succeeded = false ∧ sent = outcome.samples) := by
  intro sent outcome
  rcases e.runsOf_cases server log now budget c with hruns | ⟨r, hruns, houtcome⟩
  · exact .inl (by simp only [sent, hruns, List.flatMap_nil])
  have hfailed := h r (hruns ▸ List.mem_singleton_self r)
  have hsent : sent = r.run.outcome.samples := by
    simp only [sent, hruns, List.flatMap_singleton]
  rcases houtcome with houtcome | houtcome
  · rw [houtcome] at hsent
    exact .inl hsent
  · rw [CollectorRun.succeeded, houtcome] at hfailed
    rw [houtcome] at hsent
    exact .inr ⟨hfailed, hsent⟩

end Sent

end Exporter

/-! ## Status variables -/

open StatusVariables in
/-- **Status variables, from the answer to the page.** The collector fails, and sends nothing,
exactly if its query is refused or brings rows without one of the two columns. If it has no run that
succeeds, the page shows nothing of it. If it has one, the page shows a family for each name part
that a row gives a value, and no others: a gauge without labels, with the value that is given first.
A row that gives nothing may be left out. -/
theorem Exporter.shows_status_variables (e : Exporter) (server : Server) (log : Log)
    (now budget : Duration) {block : List Family}
    (h : (e.scrape server log now budget).2.scrape.Shows block) :
    let page := (e.scrape server log now budget).2
    let answer := (server.answer log "SHOW GLOBAL STATUS").result
    let outcome := (Collector.statusVariables.collect server none log now).outcome
    let runs := page.scrape.runsOf .statusVariables
    let families := (block ++ page.cumulative).filter fun f =>
      "mysql_global_status".toList.isPrefixOf f.name.toList
    (outcome.succeeded = false ↔
      (∃ fault, answer = .error fault) ∨ ∃ rows, answer = .ok rows ∧ IsUnlisted rows) ∧
    (outcome.succeeded = false → outcome.samples = []) ∧
    (runs = [] ∨ ∃ r, runs = [r] ∧ (r.run.outcome = .timedOut ∨ r.run.outcome = outcome)) ∧
    ((∀ r ∈ runs, r.succeeded = false) → families = []) ∧
    (∀ r ∈ runs, r.succeeded = true → ∃ rows, answer = .ok rows ∧ ¬IsUnlisted rows ∧
      (families.map Family.name).Pairwise (· < ·) ∧
      ∀ f, f ∈ families ↔ ∃ part x, IsFirst rows part x ∧ f = family part x) ∧
    ∀ columns before cells after, (∀ part x, ¬Gives ⟨columns, cells⟩ part x) →
      (harvest ⟨columns, before ++ cells :: after⟩).samples =
        (harvest ⟨columns, before ++ after⟩).samples := by
  intro page answer outcome runs families
  have hruns := e.runsOf_cases server log now budget .statusVariables
  have hfamilies : families = Family.ofSamples (runs.flatMap (·.run.outcome.samples)) :=
    e.filter_owns server log now budget h .statusVariables
  refine ⟨succeeded_eq_false_iff server log now, samples_of_not_succeeded, hruns, fun hfailed => ?_,
    fun r hr hsucceeded => ?_, fun columns before cells after => samples_insert⟩
  · rw [hfamilies]
    rcases sent_of_failed hfailed with hsent | ⟨houtcome, hsent⟩
    · rw [hsent, Family.ofSamples_nil]
    · rw [hsent, samples_of_not_succeeded houtcome, Family.ofSamples_nil]
  · obtain ⟨houtcome, hsent⟩ := sent_of_succeeded hr hsucceeded
    obtain ⟨rows, hanswer, hlisted, hsamples⟩ := exists_of_succeeded houtcome
    rw [hfamilies, hsent, hsamples]
    exact ⟨rows, hanswer, hlisted, Family.names_ofSamples_sorted _, fun f => mem_families_iff⟩

/-- Variables of which two have one name part, and one of these has no value in a first row. -/
def repeatedVariables : RowSet where
  columns := ["Variable_name", "Value"]
  cells := [[some "Ssl", none], [some "ssl", some "ON"], [some "SSL", some "OFF"]]

theorem Exporter.shows_status_variables_repeated :
    let server : Server := .ofReplies fun sql =>
      if sql = Scrape.versionSql then [{ result := .ok ⟨["VERSION()"], [[some "8.0.36"]]⟩ }]
      else [{ result := .ok repeatedVariables }]
    let e : Exporter := { settings := { enabled := ["global_status"] } }
    let page := (e.scrape server [] ⟨0⟩ (.ofWholeSeconds 30)).2
    page.scrape.Shows page.current ∧ StatusVariables.family "ssl" 1 ∈ page.families ∧
      StatusVariables.family "ssl" 0 ∉ page.families := by
  intro server e page
  have hshows : page.scrape.Shows page.current := Scrape.shows_families page.scrape
  obtain ⟨-, -, -, -, hshown, -⟩ :=
    Exporter.shows_status_variables e server [] ⟨0⟩ (.ofWholeSeconds 30) hshows
  have hsucceeded : ∃ r ∈ page.scrape.runsOf .statusVariables, r.succeeded = true := by decide
  obtain ⟨r, hr, hsucceeded⟩ := hsucceeded
  obtain ⟨rows, hanswer, -, -, hmem⟩ := hshown r hr hsucceeded
  obtain rfl : repeatedVariables = rows := Except.ok.inj hanswer
  have hon : Status.value? "ON".toList = some 1 := by
    simp [Status.value?, Status.keyword?, Status.onWords]
  have hfirst : StatusVariables.IsFirst repeatedVariables "ssl" 1 := by
    refine ⟨[⟨["Variable_name", "Value"], [some "Ssl", none]⟩], _, _, rfl,
      ⟨"ssl", "ON", rfl, rfl, hon, by decide⟩, fun row hrow y => ?_⟩
    rintro ⟨name, value, -, hvalue, -⟩
    rw [List.mem_singleton.mp hrow] at hvalue
    cases hvalue
  have hname : "mysql_global_status".toList.isPrefixOf "mysql_global_status_ssl".toList = true := by
    decide
  have hiff (x : Float) : StatusVariables.family "ssl" x ∈ page.families ↔
      StatusVariables.IsFirst repeatedVariables "ssl" x := by
    rw [← StatusVariables.family_mem_iff, StatusVariables.mem_families_iff, ← hmem, List.mem_filter]
    exact (and_iff_left hname).symm
  refine ⟨hshows, (hiff 1).mpr hfirst, fun hoff => ?_⟩
  exact absurd (((hiff 0).mp hoff).unique hfirst) (by decide)

/-! ## The binary log -/

/-- What the collector sends in a scrape is in pairs, of the entries of the rows that it obtains if
its run succeeds, and of none otherwise. -/
theorem Exporter.exists_paired_sent (e : Exporter) (server : Server) (log : Log)
    (now budget : Duration) :
    let runs := (e.scrape server log now budget).2.scrape.runsOf .binaryLog
    ∃ sets,
      ((∃ r ∈ runs, r.succeeded = true ∧
          ∃ rows, Fetch.Obtains server log Collector.binaryLog.attempts rows ∧
            BinaryLog.GivesTransactions (BinaryLog.lastText rows "Executed_Gtid_Set") sets) ∨
        (∀ r ∈ runs, r.succeeded = false) ∧ sets = []) ∧
      BinaryLog.Paired (runs.flatMap (·.run.outcome.samples)) sets := by
  intro runs
  obtain ⟨sets, hpaired, hsets⟩ := BinaryLog.exists_paired server log now
  by_cases hsucceeded : ∃ r ∈ runs, r.succeeded = true
  · obtain ⟨r, hr, hsucceeded⟩ := hsucceeded
    obtain ⟨houtcome, hsent⟩ := sent_of_succeeded hr hsucceeded
    rw [houtcome] at hsets
    exact ⟨sets, .inl ⟨r, hr, hsucceeded, hsets⟩, hsent ▸ hpaired⟩
  · have hfailed : ∀ r ∈ runs, r.succeeded = false := by simpa using hsucceeded
    refine ⟨[], .inr ⟨hfailed, rfl⟩, ?_⟩
    rcases sent_of_failed hfailed with hsent | ⟨houtcome, hsent⟩
    · rw [hsent]
      exact BinaryLog.paired_append (.inl rfl) []
    · rw [houtcome] at hsets
      rw [hsent]
      exact hsets ▸ hpaired

open BinaryLog in
/-- **The binary log, from the answer to the page.** The collector fails exactly if both its queries
are refused or a part of what it obtains is malformed, and it sends what the rows derive, in pairs:
the file with the position, and the first transaction of each entry with the last one. All rows but
the last are of no account. In whatever order samples arrive, the page shows the first and the last
transactions of the same entries: of each server the first one that the rows obtained have, or of
none if no run of the collector succeeds. -/
theorem Exporter.shows_binary_log (e : Exporter) (server : Server) (log : Log)
    (now budget : Duration) {block : List Family}
    (h : (e.scrape server log now budget).2.scrape.Shows block) :
    let page := (e.scrape server log now budget).2
    let texts := ["SHOW MASTER STATUS", "SHOW BINARY LOG STATUS"]
    let outcome := (Collector.binaryLog.collect server none log now).outcome
    let runs := page.scrape.runsOf .binaryLog
    (outcome.succeeded = false ↔ Fetch.Refuses server log texts ∨
      ∃ rows, Fetch.Obtains server log texts rows ∧
        (IsMisshapen rows ∨ MalformedPosition (lastText rows "File") (lastText rows "Position") ∨
          MalformedTransactions (lastText rows "Executed_Gtid_Set"))) ∧
    (Fetch.Refuses server log texts → outcome.samples = []) ∧
    (∀ rows, Fetch.Obtains server log texts rows → ∀ samples complete,
      Derives rows samples complete ↔
        outcome.samples = samples ∧ outcome.succeeded = complete) ∧
    (∃ sets, Paired outcome.samples sets ∧
      if outcome.succeeded then ∃ rows, Fetch.Obtains server log texts rows ∧
        GivesTransactions (lastText rows "Executed_Gtid_Set") sets
      else sets = []) ∧
    (∀ rows, Fetch.Obtains server log texts rows →
      ∀ server' log' rows', Fetch.Obtains server' log' texts rows' →
        rows.columns = rows'.columns → rows.cells.getLast? = rows'.cells.getLast? →
        (Collector.binaryLog.collect server' none log' now).outcome = outcome) ∧
    (runs = [] ∨ ∃ r, runs = [r] ∧ (r.run.outcome = .timedOut ∨ r.run.outcome = outcome)) ∧
    ∃ sets,
      ((∃ r ∈ runs, r.succeeded = true ∧ ∃ rows, Fetch.Obtains server log texts rows ∧
          GivesTransactions (lastText rows "Executed_Gtid_Set") sets) ∨
        (∀ r ∈ runs, r.succeeded = false) ∧ sets = []) ∧
      (Family.seriesOf (block ++ page.cumulative)
          "mysql_master_status_executed_gtid_start").Perm
        ((leadingSets sets).map fun s => ⟨[("executed_server_id", s.server)],
          .single (Decimal.ofNatural64 s.first)⟩) ∧
      (Family.seriesOf (block ++ page.cumulative)
          "mysql_master_status_executed_gtid_end").Perm
        ((leadingSets sets).map fun s => ⟨[("executed_server_id", s.server)],
          .single (Decimal.ofNatural64 s.last)⟩) := by
  intro page texts outcome runs
  have hrefused (hrefuses : Fetch.Refuses server log texts) : outcome.samples = [] := by
    obtain ⟨fault, houtcome⟩ := Collector.outcome_of_refuses (c := .binaryLog) hrefuses now
    have houtcome : outcome = .finished (.failed fault) := houtcome
    rw [houtcome]
    rfl
  refine ⟨succeeded_eq_false_iff server log now, hrefused,
    fun rows hrows => derives_iff_outcome hrows now, exists_paired server log now, ?_,
    e.runsOf_cases server log now budget .binaryLog, ?_⟩
  · intro rows hrows server' log' rows' hrows' hcolumns hlast
    have houtcome : outcome = .finished (harvest rows) :=
      Collector.outcome_of_obtains (c := .binaryLog) hrows now
    rw [houtcome, Collector.outcome_of_obtains (c := .binaryLog) hrows' now]
    exact congrArg _ (harvest_congr hcolumns hlast).symm
  · obtain ⟨sets, hsets, hpaired⟩ := e.exists_paired_sent server log now budget
    have hregular := (Scrape.sound_scrape e server log now budget).regular_sent .binaryLog
    have hfamilies := e.filter_owns server log now budget h .binaryLog
    obtain ⟨hfirst, hlast⟩ := hpaired.seriesOf_perm hregular
    -- The collector owns both names, so nothing else on the page shows them.
    rw [← hfamilies, Family.seriesOf_filter (by decide)] at hfirst hlast
    exact ⟨sets, hsets, hfirst, hlast⟩

/-- A server that writes a binary log, with transactions of two servers. -/
def twoOrigins : RowSet where
  columns := ["File", "Position", "Binlog_Do_DB", "Binlog_Ignore_DB", "Executed_Gtid_Set"]
  cells := [[some "no file"],
    [some "binlog.000006", some "157", some "", some "", some "a:1-5,b:3,a:7"]]

theorem Exporter.shows_binary_log_twoOrigins :
    let server : Server := .ofReplies fun sql =>
      if sql = Scrape.versionSql then [{ result := .ok ⟨["VERSION()"], [[some "8.0.36"]]⟩ }]
      else if sql = "SHOW MASTER STATUS" then [{ result := .ok twoOrigins }] else []
    let e : Exporter := { settings := { enabled := ["master_status"] } }
    let page := (e.scrape server [] ⟨0⟩ (.ofWholeSeconds 30)).2
    let series (id : String) (x : Float) : Series := ⟨[("executed_server_id", id)], .single x⟩
    page.scrape.Shows page.current ∧
      (Collector.binaryLog.collect server none [] ⟨0⟩).outcome.samples.length = 8 ∧
      (Family.seriesOf page.families "mysql_master_status_executed_gtid_start").Perm
        [series "a" 1, series "b" 3] ∧
      (Family.seriesOf page.families "mysql_master_status_executed_gtid_end").Perm
        [series "a" 5, series "b" 3] := by
  intro server e page series
  have hshows : page.scrape.Shows page.current := Scrape.shows_families page.scrape
  have hobtains : Fetch.Obtains server [] Collector.binaryLog.attempts twoOrigins := .here rfl
  let sets : List TransactionSet := [⟨"a", ⟨1, 5⟩, []⟩, ⟨"b", ⟨3, 3⟩, []⟩, ⟨"a", ⟨7, 7⟩, []⟩]
  have hread : Gtid.read "a:1-5,b:3,a:7".toList = .ok sets := rfl
  obtain ⟨-, -, hderives, -, -, -, sets', hsets, hfirst, hlast⟩ :=
    Exporter.shows_binary_log e server [] ⟨0⟩ (.ofWholeSeconds 30) hshows
  have hsame : sets' = sets := by
    rcases hsets with ⟨-, -, -, rows, hrows, hgives⟩ | ⟨hfailed, -⟩
    · rw [hrows.unique hobtains] at hgives
      cases hgives with
      | blank h => exact absurd (h 'a' (by decide)) (by decide)
      | sets h hwrites =>
        have hread' := Gtid.read_eq_ok.mpr hwrites
        exact Except.ok.inj (hread'.symm.trans hread)
    · have hsucceeded : ∃ r ∈ page.scrape.runsOf .binaryLog, r.succeeded = true := by decide
      obtain ⟨r, hr, hsucceeded⟩ := hsucceeded
      rw [hfailed r hr] at hsucceeded
      cases hsucceeded
  rw [hsame] at hfirst hlast
  have hsamples := ((hderives twoOrigins hobtains _ true).mp
    (BinaryLog.derives_iff.mpr ⟨rfl, rfl⟩)).1
  exact ⟨hshows, congrArg List.length hsamples, hfirst, hlast⟩

end MysqlMetrics
