import MysqlMetrics.Proofs.Scrape.Arrival

/-!
# What a scrape loses

Every sample that a collector sends is accepted. Of those that count, the leading samples of their
name, a family shows each as a series of its own exactly if no two of them have label values that
read the same one after another.

Label values come from the server, so this is not always so: two accounts whose names and hosts abut
to the same text share a series (`Exporter.shared_series`).
-/

namespace MysqlMetrics

/-- **What is lost.** Whatever the server answers and in whatever order samples arrive, the sink
accepts all of them, and a name shows each of its leading samples with its own labels and its own
value exactly if their label values, written one after another, are all different. -/
theorem Exporter.shows_leading_iff (e : Exporter) (server : Server) (log : Log)
    (now budget : Duration) {order : List Sample}
    (h : (e.scrape server log now budget).2.scrape.Arrives order) (name : String) :
    Sample.accepted order = order ∧
      ((Family.seriesOf (Family.ofSamples (Sample.accepted order)) name).Perm
          ((Family.leading order name).map Sample.series) ↔
        ((Family.leading order name).map fun t => Entry.key t.labels).Nodup) := by
  have hs := Scrape.sound_scrape e server log now budget
  have haccepted := hs.accepted_eq h
  refine ⟨haccepted, ?_⟩
  rw [haccepted]
  exact (hs.regular h).seriesOf_perm_iff name

/-! ## Two accounts -/

/-- A server with two accounts, of which only the first has the privilege to select. -/
def twoAccounts (user host user' host' : String) : Server :=
  .ofReplies fun sql =>
    if sql = Scrape.versionSql then [{ result := .ok ⟨["VERSION()"], [[some "8.0.36"]]⟩ }]
    else if sql = Accounts.sql then
      [{ result := .ok ⟨["User", "Host", "Select_priv"],
        [[some user, some host, some "Y"], [some user', some host', some "N"]]⟩ }]
    else []

/-- A scrape of the accounts of a server. -/
def accountsPage (server : Server) : Page :=
  (Exporter.scrape { settings := { enabled := ["user"] } } server [] ⟨0⟩ (.ofWholeSeconds 30)).2

theorem Exporter.shows_both_accounts :
    let s := (accountsPage (twoAccounts "ann" "db" "bob" "db")).scrape
    s.Arrives s.samples ∧
      (Family.seriesOf (Family.ofSamples (Sample.accepted s.samples)) "mysql_user_select_priv").Perm
        ((Family.leading s.samples "mysql_user_select_priv").map Sample.series) :=
  ⟨Scrape.arrives_samples _,
    (Exporter.shows_leading_iff _ _ _ _ _ (Scrape.arrives_samples _)
      "mysql_user_select_priv").2.mpr (by decide)⟩

/-- The sample of an account's privilege to select. -/
def selectSample (user host : String) (value : Float) : Sample :=
  .of (Accounts.descriptor "Select_priv") .gauge value [user, host]

theorem series_selectSample (user host : String) (value : Float) :
    (selectSample user host value).series = ⟨[("host", host), ("user", user)], .single value⟩ := by
  simp [selectSample, Sample.series, Entry.series, Entry.ofSample, Sample.of, Accounts.descriptor,
    Descriptor.of, Accounts.labelNames, List.mergeSort]

/-- The family of two samples with the same key has the labels of the first and the value of the
second. -/
private theorem ofGroup?_abutting :
    Family.ofGroup? [selectSample "ab" "c" 1, selectSample "a" "bc" 0] =
      some ⟨"mysql_user_select_priv", "Privilege or resource limit from mysql.user.", .gauge,
        [(selectSample "ab" "c" 0).series]⟩ := by
  have hvalid : (selectSample "ab" "c" 1).descriptor.isValid = true := by decide
  have hname : (selectSample "ab" "c" 1).name = "mysql_user_select_priv" := by decide
  have hentries : Family.entries [selectSample "ab" "c" 1, selectSample "a" "bc" 0] =
      [Entry.ofSample (selectSample "ab" "c" 0)] := by decide
  rw [Family.ofGroup?, if_pos hvalid, hentries, hname]
  simp only [List.map_cons, List.map_nil, Family.sortSeries, List.mergeSort_singleton]
  rfl

/-- **A lost account.** The accounts `ab` at `c` and `a` at `bc` both have a leading sample, and one
series is shown, with the labels of the first and the value of the second. -/
theorem Exporter.shared_series :
    let page := accountsPage (twoAccounts "ab" "c" "a" "bc")
    (Family.leading page.scrape.samples "mysql_user_select_priv").map Sample.series =
        [⟨[("host", "c"), ("user", "ab")], .single 1⟩,
          ⟨[("host", "bc"), ("user", "a")], .single 0⟩] ∧
      Family.seriesOf page.current "mysql_user_select_priv" =
        [⟨[("host", "c"), ("user", "ab")], .single 0⟩] := by
  intro page
  have hleading : Family.leading page.scrape.samples "mysql_user_select_priv" =
      [selectSample "ab" "c" 1, selectSample "a" "bc" 0] := by decide
  have hgroup : Family.group (Sample.accepted page.scrape.samples) "mysql_user_select_priv" =
      [selectSample "ab" "c" 1, selectSample "a" "bc" 0] := by decide
  have hcurrent : page.current = Family.ofSamples (Sample.accepted page.scrape.samples) := rfl
  constructor
  · rw [hleading]
    simp only [List.map_cons, List.map_nil, series_selectSample]
  · rw [hcurrent, Family.seriesOf, Family.named_ofSamples, hgroup, ofGroup?_abutting,
      series_selectSample]
    rfl

end MysqlMetrics
