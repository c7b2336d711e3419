import Mathlib.Data.List.Nodup
import MysqlMetrics.Monitor.Basic
import MysqlMetrics.Proofs.Metric.Series

/-!
# Records of a monitor

A monitor keeps one record for each name, and its families show each record once.

* `record?_record`: a run changes the record of its own name only.
* `Monitor.Distinct`: no name has two records; every monitor that only records runs is so.
* `runCount_record`, `errorCount_record`: what a run adds to the counts of a name;
  `Monitor.Counted`: a record tells of one run at least.
* `mem_familyNames`: the names of a monitor's families.
* `Distinct.readings_last`, `Distinct.readings_durations`, `Distinct.readings_errors`: what they
  show of one name, and all three in `Distinct.readings_counts`; `seriesOf_metricsTotal`,
  `seriesOf_scrapesTotal`: what they show of all.
-/

namespace MysqlMetrics.Monitor

/-! ## Records -/

private theorem find?_recordIn (collector name : String) (elapsed now : Duration) (success : Bool)
    (records : List (String × RunRecord)) :
    ((recordIn collector elapsed now success records).find? (·.1 == name)).map Prod.snd =
      if collector = name then
        some (updated ((records.find? (·.1 == name)).map Prod.snd) elapsed now success)
      else (records.find? (·.1 == name)).map Prod.snd := by
  induction records with
  | nil =>
    by_cases h : collector = name
    · simp [recordIn, h]
    · simp [recordIn, h]
  | cons entry rest ih =>
    obtain ⟨key, r⟩ := entry
    by_cases hkey : key = collector
    · by_cases h : collector = name
      · simp [recordIn, hkey, h]
      · simp [recordIn, hkey, h]
    · by_cases hname : key = name
      · simp [recordIn, hname, Ne.symm (hname ▸ hkey), (hname ▸ hkey : name ≠ collector)]
      · simp [recordIn, hkey, hname, ih]

/-- A run changes the record of its own name and leaves the others as they are. -/
theorem record?_record (m : Monitor) (collector name : String) (elapsed now : Duration)
    (success : Bool) :
    (m.record collector elapsed now success).record? name =
      if collector = name then some (updated (m.record? name) elapsed now success)
      else m.record? name :=
  find?_recordIn collector name elapsed now success m.records

/-- No name has two records. -/
def Distinct (m : Monitor) : Prop := (m.records.map Prod.fst).Nodup

private theorem mem_names_recordIn {collector name : String} {elapsed now : Duration}
    {success : Bool} {records : List (String × RunRecord)} :
    name ∈ (recordIn collector elapsed now success records).map Prod.fst ↔
      name ∈ records.map Prod.fst ∨ name = collector := by
  induction records with
  | nil => simp [recordIn]
  | cons entry rest ih =>
    obtain ⟨key, r⟩ := entry
    by_cases hkey : key = collector
    · subst hkey
      simp only [recordIn, if_true, List.map_cons, List.mem_cons]
      tauto
    · simp only [recordIn, hkey, if_false, List.map_cons, List.mem_cons, ih]
      tauto

private theorem nodup_recordIn {collector : String} {elapsed now : Duration} {success : Bool}
    {records : List (String × RunRecord)} (h : (records.map Prod.fst).Nodup) :
    ((recordIn collector elapsed now success records).map Prod.fst).Nodup := by
  induction records with
  | nil => simp [recordIn]
  | cons entry rest ih =>
    obtain ⟨key, r⟩ := entry
    rw [List.map_cons, List.nodup_cons] at h
    by_cases hkey : key = collector
    · subst hkey
      simp only [recordIn, if_true, List.map_cons, List.nodup_cons]
      exact h
    · simp only [recordIn, hkey, if_false, List.map_cons, List.nodup_cons]
      refine ⟨fun hmem => ?_, ih h.2⟩
      rcases mem_names_recordIn.mp hmem with hmem | heq
      · exact h.1 hmem
      · exact hkey heq

theorem distinct_empty : ({} : Monitor).Distinct := List.nodup_nil

theorem Distinct.record {m : Monitor} (h : m.Distinct) (collector : String)
    (elapsed now : Duration) (success : Bool) :
    (m.record collector elapsed now success).Distinct := nodup_recordIn h

/-! ## Timers -/

/-- A timer that goes out of use unfinished is recorded as an error. -/
theorem discard_of_running (m : Monitor) {t : Timer} (h : t.isDone = false) (now : Duration) :
    m.discard t now =
      m.record t.collector ⟨now.nanoseconds - t.started.nanoseconds⟩ now false := by
  simp [discard, finish, h]

/-- A timer that was finished is not recorded again when it goes out of use. -/
theorem conclude_of_running (m : Monitor) {t : Timer} (h : t.isDone = false) (now : Duration)
    (success : Bool) :
    m.conclude t now success =
      m.record t.collector ⟨now.nanoseconds - t.started.nanoseconds⟩ now success := by
  simp [conclude, discard, finish, h]

/-! ## Counts -/

/-- The number of runs that a record tells of. -/
def runCount (r? : Option RunRecord) : Nat := (r?.map fun r => r.durations.count).getD 0

/-- The number of errors that a record tells of. -/
def errorCount (r? : Option RunRecord) : Nat := (r?.map RunRecord.errors).getD 0

theorem runCount_updated (old : Option RunRecord) (elapsed now : Duration) (success : Bool) :
    runCount (some (updated old elapsed now success)) = runCount old + 1 := by
  cases old <;> rfl

theorem errorCount_updated (old : Option RunRecord) (elapsed now : Duration) (success : Bool) :
    errorCount (some (updated old elapsed now success)) =
      errorCount old + if success then 0 else 1 := by
  cases old <;> rfl

/-- Another run counts for its own name. -/
theorem runCount_record (m : Monitor) (collector name : String) (elapsed now : Duration)
    (success : Bool) :
    runCount ((m.record collector elapsed now success).record? name) =
      runCount (m.record? name) + if collector = name then 1 else 0 := by
  rw [record?_record]
  split
  · exact runCount_updated _ _ _ _
  · rfl

/-- Another run is an error of its own name unless it succeeds. -/
theorem errorCount_record (m : Monitor) (collector name : String) (elapsed now : Duration)
    (success : Bool) :
    errorCount ((m.record collector elapsed now success).record? name) =
      errorCount (m.record? name) + if collector = name ∧ success = false then 1 else 0 := by
  rw [record?_record]
  by_cases h : collector = name
  · rw [if_pos h, errorCount_updated]
    cases success <;> simp [h]
  · simp [h]

/-- Every record tells of a run. -/
def Counted (m : Monitor) : Prop := ∀ name r, m.record? name = some r → 0 < r.durations.count

theorem counted_empty : Counted {} := fun _ _ h => by cases h

theorem Counted.record {m : Monitor} (h : m.Counted) (collector : String) (elapsed now : Duration)
    (success : Bool) : (m.record collector elapsed now success).Counted := by
  intro name r hr
  have hcount := m.runCount_record collector name elapsed now success
  rw [hr] at hcount
  by_cases hname : collector = name
  · rw [if_pos hname] at hcount
    calc 0 < runCount (m.record? name) + 1 := Nat.succ_pos _
      _ = r.durations.count := hcount.symm
  · rw [record?_record, if_neg hname] at hr
    exact h name r hr

/-! ## Families -/

/-- The names of a monitor's families. -/
def familyNames : List String :=
  ["mysql_exporter_collector_last_scrape_timestamp_seconds",
    "mysql_exporter_collector_scrape_duration_seconds",
    "mysql_exporter_collector_scrape_errors_total",
    "mysql_exporter_metrics_total",
    "mysql_exporter_scrapes_total"]

theorem mem_familyNames {m : Monitor} {f : Family} (h : f ∈ m.families) : f.name ∈ familyNames := by
  have hmem := (List.mem_filter.mp h).1
  simp only [List.mem_cons, List.not_mem_nil, or_false] at hmem
  rcases hmem with rfl | rfl | rfl | rfl | rfl
  all_goals simp [familyNames, recordFamily, totalFamily]

/-- Among families of different names that are left out if they have no series, a name shows the
series of its family. -/
private theorem seriesOf_filter_isEmpty {families : List Family}
    (h : (families.map Family.name).Nodup) {f : Family} (hf : f ∈ families) :
    Family.seriesOf (families.filter fun f => !f.series.isEmpty) f.name = f.series := by
  induction families with
  | nil => cases hf
  | cons g rest ih =>
    rw [List.map_cons, List.nodup_cons] at h
    have hcons : Family.seriesOf ((g :: rest).filter fun f => !f.series.isEmpty) f.name =
        (if g.name = f.name then g.series else []) ++
          Family.seriesOf (rest.filter fun f => !f.series.isEmpty) f.name := by
      by_cases hg : g.series = []
      · simp [Family.seriesOf, hg]
      · by_cases hname : g.name = f.name
        · simp [Family.seriesOf, hg, hname]
        · simp [Family.seriesOf, hg, hname]
    rw [hcons]
    rcases List.mem_cons.mp hf with rfl | hf
    · rw [if_pos rfl, Family.seriesOf_eq_nil, List.append_nil]
      intro k hk hname
      exact h.1 (List.mem_map.mpr ⟨k, (List.mem_filter.mp hk).1, hname⟩)
    · have hne : g.name ≠ f.name := fun hname => h.1 (List.mem_map.mpr ⟨f, hf, hname.symm⟩)
      rw [if_neg hne, List.nil_append, ih h.2 hf]

private theorem filterMap_of_not_mem {reading? : RunRecord → Option Reading} {name : String}
    {records : List (String × RunRecord)} (h : name ∉ records.map Prod.fst) :
    ((records.filterMap fun (collector, r) => (reading? r).map (labelled collector)).filter
      fun s => s.labels = [("collector", name)]) = [] := by
  refine List.filter_eq_nil_iff.mpr fun s hs hlabels => h ?_
  obtain ⟨⟨key, r⟩, hentry, hs⟩ := List.mem_filterMap.mp hs
  obtain ⟨reading, -, rfl⟩ := Option.map_eq_some_iff.mp hs
  simp only [labelled, decide_eq_true_eq, List.cons.injEq, Prod.mk.injEq, true_and,
    and_true] at hlabels
  exact List.mem_map.mpr ⟨_, hentry, hlabels⟩

private theorem filter_filterMap (reading? : RunRecord → Option Reading) (name : String)
    {records : List (String × RunRecord)} (h : (records.map Prod.fst).Nodup) :
    ((records.filterMap fun (collector, r) => (reading? r).map (labelled collector)).filter
      fun s => s.labels = [("collector", name)]) =
      ((((records.find? (·.1 == name)).map Prod.snd).bind reading?).map
        (labelled name)).toList := by
  induction records with
  | nil => rfl
  | cons entry rest ih =>
    obtain ⟨key, r⟩ := entry
    rw [List.map_cons, List.nodup_cons] at h
    by_cases hkey : key = name
    · subst hkey
      have hrest := @filterMap_of_not_mem reading? key rest h.1
      cases hr : reading? r with
      | none => simp [hr, hrest]
      | some reading => simp [hr, hrest, labelled]
    · cases hr : reading? r with
      | none => simp [hr, hkey, ih h.2]
      | some reading =>
        have hne : (labelled key reading).labels ≠ [("collector", name)] := by
          simpa [labelled] using hkey
        simp [hr, hkey, hne, ih h.2]

/-- What a family of records shows of one name. -/
private theorem Distinct.readings_recordFamily {m : Monitor} (h : m.Distinct)
    {metric help : String} {type : FamilyType} {reading? : RunRecord → Option Reading}
    (hseries : Family.seriesOf m.families metric =
      (m.recordFamily metric help type reading?).series) (name : String) :
    Family.readings m.families metric [("collector", name)] =
      ((m.record? name).bind reading?).toList := by
  have hperm : (m.recordFamily metric help type reading?).series.Perm
      (m.records.filterMap fun (collector, r) => (reading? r).map (labelled collector)) :=
    List.mergeSort_perm _ _
  rw [← hseries] at hperm
  have hreadings := Family.readings_perm hperm [("collector", name)]
  rw [filter_filterMap reading? name h] at hreadings
  cases hr : (m.record? name).bind reading? with
  | none =>
    rw [record?] at hr
    simpa [hr] using hreadings
  | some reading =>
    rw [record?] at hr
    simpa [hr, labelled] using hreadings

variable {m : Monitor}

private theorem nodup_familyNames : familyNames.Nodup := by decide

/-- The time of the last run. -/
theorem Distinct.readings_last (h : m.Distinct) (name : String) :
    Family.readings m.families "mysql_exporter_collector_last_scrape_timestamp_seconds"
        [("collector", name)] =
      ((m.record? name).bind fun r => some (.single r.last.toSeconds)).toList :=
  h.readings_recordFamily (seriesOf_filter_isEmpty (by exact nodup_familyNames) (.head _)) name

/-- The times that the runs took. -/
theorem Distinct.readings_durations (h : m.Distinct) (name : String) :
    Family.readings m.families "mysql_exporter_collector_scrape_duration_seconds"
        [("collector", name)] =
      ((m.record? name).bind fun r => some (.distribution r.durations.distribution)).toList :=
  h.readings_recordFamily
    (seriesOf_filter_isEmpty (by exact nodup_familyNames) (.tail _ (.head _))) name

/-- The number of errors, if there were any. -/
theorem Distinct.readings_errors (h : m.Distinct) (name : String) :
    Family.readings m.families "mysql_exporter_collector_scrape_errors_total"
        [("collector", name)] =
      ((m.record? name).bind fun r =>
        if r.errors = 0 then none else some (.single (Decimal.ofNatural64 r.errors))).toList :=
  h.readings_recordFamily
    (seriesOf_filter_isEmpty (by exact nodup_familyNames) (.tail _ (.tail _ (.head _)))) name

/-- The size of the last scrape. -/
theorem seriesOf_metricsTotal (m : Monitor) :
    Family.seriesOf m.families "mysql_exporter_metrics_total" =
      [⟨[], .single (Decimal.ofInteger64 m.metricsTotal)⟩] :=
  seriesOf_filter_isEmpty (by exact nodup_familyNames) (.tail _ (.tail _ (.tail _ (.head _))))

/-- The number of scrapes. -/
theorem seriesOf_scrapesTotal (m : Monitor) :
    Family.seriesOf m.families "mysql_exporter_scrapes_total" =
      [⟨[], .single (Decimal.ofNatural64 m.scrapesTotal)⟩] :=
  seriesOf_filter_isEmpty (by exact nodup_familyNames)
    (.tail _ (.tail _ (.tail _ (.tail _ (.head _)))))

end MysqlMetrics.Monitor

namespace MysqlMetrics

/-- The number of observations that a distribution shows. -/
def Reading.observations? : Reading → Option Nat
  | .single _ => none
  | .distribution d => some d.count

/-- What a name shows if its record tells of a run: how many there were, how many of them were
errors, and a time of the last one. -/
theorem Monitor.Distinct.readings_counts {m : Monitor} (h : m.Distinct) (name : String)
    (hcounted : ∀ r, m.record? name = some r → 0 < r.durations.count) :
    let runs := runCount (m.record? name)
    let errors := errorCount (m.record? name)
    (Family.readings m.families "mysql_exporter_collector_scrape_duration_seconds"
        [("collector", name)]).map Reading.observations? =
      (if runs = 0 then [] else [some runs]) ∧
    Family.readings m.families "mysql_exporter_collector_scrape_errors_total"
        [("collector", name)] =
      (if errors = 0 then [] else [.single (Decimal.ofNatural64 errors)]) ∧
    (Family.readings m.families "mysql_exporter_collector_last_scrape_timestamp_seconds"
        [("collector", name)] ≠ [] ↔ 0 < runs) := by
  rw [h.readings_durations, h.readings_errors, h.readings_last]
  cases hr : m.record? name with
  | none => simp [runCount, errorCount]
  | some r =>
    have hpos : 0 < r.durations.count := hcounted r hr
    have hdistribution : r.durations.distribution.count = r.durations.count := rfl
    refine ⟨?_, ?_, ?_⟩
    · simp [runCount, Reading.observations?, hdistribution, Nat.ne_of_gt hpos]
    · by_cases hzero : r.errors = 0
      · simp [errorCount, hzero]
      · simp [errorCount, hzero]
    · simpa [runCount] using hpos

end MysqlMetrics
