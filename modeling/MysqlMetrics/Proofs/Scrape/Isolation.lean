import MysqlMetrics.Proofs.Scrape.Page

/-!
# Isolation of collectors

What a scrape does and shows for one collector depends on the answers to the version query and to
the collector's own texts, and on nothing else: not on which other collectors run, not on what they
are answered, not on the order in which samples arrive.

* `Scrape.runsOf_congr`: the run of a collector is the same in two scrapes with the same answers to
  these texts.
* `Collector.isolated`: so is all that the pages show of it.
-/

namespace MysqlMetrics

namespace Scrape

variable {server server' : Server} {log log' : Log} {now deadline : Duration}

theorem Reports.congr {text : String}
    (h : server.answer log versionSql = server'.answer log' versionSql)
    (ht : Reports server log now deadline text) : Reports server' log' now deadline text := by
  rwa [Reports, Names, ← h]

/-- The run of a collector that is switched on in two scrapes is the same in both if the servers
agree on the version query and on the collector's texts. -/
theorem runsOf_congr (now deadline : Duration) {c : Collector}
    {enabled enabled' : List Collector} (hnd : enabled.Nodup) (hnd' : enabled'.Nodup)
    (hc : c ∈ enabled) (hc' : c ∈ enabled')
    (h : Server.AgreeOn (versionSql :: c.attempts) server log server' log') :
    (run enabled server log now deadline).runsOf c =
      (run enabled' server' log' now deadline).runsOf c := by
  have hversion : server.answer log versionSql = server'.answer log' versionSql :=
    h.answer_eq List.mem_cons_self
  have hcollect := Collector.collect_congr (h.mono fun _ => List.mem_cons_of_mem versionSql)
  by_cases hr : ∃ text, Reports server log now deadline text
  · obtain ⟨text, ht⟩ := hr
    have halone : alone server deadline log (replied server log now) c =
        alone server' deadline log' (replied server' log' now) c := by
      simp only [alone, replied, hversion, hcollect]
    have hrunning : c ∈ running enabled text ↔ c ∈ running enabled' text := by
      simp [running, hc, hc']
    rw [runsOf_run hnd ht, runsOf_run hnd' (ht.congr hversion), halone]
    simp only [hrunning]
  · have hsilent' : ∀ text, ¬ Reports server' log' now deadline text := fun text ht =>
      hr ⟨text, ht.congr hversion.symm⟩
    rw [runsOf_run_of_silent (not_exists.mp hr), runsOf_run_of_silent hsilent']

end Scrape

/-- Two pages are alike for a collector: its texts were executed alike, and in whatever order the
samples of the scrapes arrived, the same is shown of its success and in its families. The blocks of
the pages themselves are among those shown (`Scrape.shows_families`). -/
structure Page.AlikeFor (c : Collector) (page page' : Page) : Prop where
  executed : (page.scrape.executed.filter fun sql => sql ∈ c.attempts) =
    page'.scrape.executed.filter fun sql => sql ∈ c.attempts
  success : ∀ block block', page.scrape.Shows block → page'.scrape.Shows block' →
    Family.readings (block ++ page.cumulative) "mysql_exporter_collector_success"
        [("collector", c.name)] =
      Family.readings (block' ++ page'.cumulative) "mysql_exporter_collector_success"
        [("collector", c.name)]
  families : ∀ block block', page.scrape.Shows block → page'.scrape.Shows block' →
    ((block ++ page.cumulative).filter fun f => c.owns f.name) =
      (block' ++ page'.cumulative).filter fun f => c.owns f.name

/-- Sound scrapes in which a collector has the same run give pages that are alike for it. -/
theorem Scrape.Sound.alikeFor {c : Collector} {page page' : Page} (hs : page.scrape.Sound)
    (hs' : page'.scrape.Sound) (hruns : page.scrape.runsOf c = page'.scrape.runsOf c)
    {m m' : Monitor} (hm : page.cumulative = m.families) (hm' : page'.cumulative = m'.families) :
    page.AlikeFor c page' where
  executed := by rw [hs.executed c, hs'.executed c, hruns]
  success := by
    rintro _ _ ⟨order, horder, rfl⟩ ⟨order', horder', rfl⟩
    have hname : "mysql_exporter_collector_success" ∉ Monitor.familyNames := by decide
    rw [hm, hm', Family.readings, Family.readings, m.seriesOf_block _ hname,
      m'.seriesOf_block _ hname]
    have h := hs.readings_success horder c
    have h' := hs'.readings_success horder' c
    rw [← hruns] at h'
    exact h.trans h'.symm
  families := by
    rintro _ _ ⟨order, horder, rfl⟩ ⟨order', horder', rfl⟩
    rw [hm, hm', m.filter_owns_block, m'.filter_owns_block, hs.filter_families horder,
      hs'.filter_families horder', hruns]

/-- **Collectors are isolated.** Let a collector be switched on in two exporters, and let two
servers give the same replies to the version query and to the collector's texts, execution by
execution. Whatever else is switched on or answered, the two scrapes are alike for the collector. -/
theorem Collector.isolated (c : Collector) {e e' : Exporter} (he : c.name ∈ e.settings.enabled)
    (he' : c.name ∈ e'.settings.enabled) {server server' : Server} {log log' : Log}
    (h : Server.AgreeOn (Scrape.versionSql :: c.attempts) server log server' log')
    (now budget : Duration) :
    Page.AlikeFor c (e.scrape server log now budget).2 (e'.scrape server' log' now budget).2 := by
  have hruns := Scrape.runsOf_congr now (Scrape.deadlineAt now budget Settings.defaultBudget)
    e.settings.collectors_nodup e'.settings.collectors_nodup (Settings.mem_collectors.mpr he)
    (Settings.mem_collectors.mpr he') h
  exact Scrape.Sound.alikeFor (Scrape.sound_scrape e server log now budget)
    (Scrape.sound_scrape e' server' log' now budget) hruns rfl rfl

/-- Replies to the version query and with one account, and to nothing else. -/
def oneAccount (sql : String) : List Reply :=
  if sql = Scrape.versionSql then [{ result := .ok ⟨["VERSION()"], [[some "8.0.36"]]⟩ }]
  else if sql = Accounts.sql then
    [{ result := .ok ⟨["User", "Host", "Select_priv"],
      [[some "root", some "localhost", some "Y"]]⟩ }]
  else []

/-- The same replies, and one to everything else that takes a minute. -/
def othersLate (sql : String) : List Reply :=
  if (oneAccount sql).isEmpty then
    [{ result := .ok .empty, delay := .ofWholeSeconds 60 }]
  else oneAccount sql

theorem Collector.isolated_othersLate :
    Server.AgreeOn (Scrape.versionSql :: accounts.attempts) (.ofReplies oneAccount) []
        (.ofReplies othersLate) [] ∧
      Page.AlikeFor accounts
        (Exporter.scrape { settings := { enabled := ["user"] } } (.ofReplies oneAccount) [] ⟨0⟩
          (.ofWholeSeconds 1)).2
        (Exporter.scrape { settings := { enabled := ["user", "global_status", "master_status"] } }
          (.ofReplies othersLate) [] ⟨0⟩ (.ofWholeSeconds 1)).2 := by
  have hagree : Server.AgreeOn (Scrape.versionSql :: accounts.attempts) (.ofReplies oneAccount) []
      (.ofReplies othersLate) [] := by
    refine Server.AgreeOn.ofReplies (fun sql hsql => ?_) []
    simp only [attempts, List.mem_cons, List.not_mem_nil, or_false] at hsql
    rcases hsql with rfl | rfl <;> rfl
  exact ⟨hagree, Collector.isolated accounts (by decide) (by decide) hagree _ _⟩

end MysqlMetrics
