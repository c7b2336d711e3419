import MysqlMetrics.Proofs.Metric.Labels
import MysqlMetrics.Proofs.Scrape.Status

/-!
# The order of arrival does not show

A table that is filled in the order of arrival depends on that order: the first sample of a name
settles its family, and of samples with the same label values the first counts. Collectors share no
name, though, and each sends in its own order, so only the metrics about the runs are filled in an
order that the collectors' speed decides. These have a label value of their own for each run.

* `Scrape.Sound.families_eq`: every order of arrival gives the same families.
* `Scrape.retimed`, `Family.untimed`: the same scrape with other times, and what a family shows
  apart from measured times.
* `Exporter.order_irrelevant`: any two orders, with whatever times measured.
-/

namespace MysqlMetrics

namespace Scrape

variable {s : Scrape} {order : List Sample}

/-! ## Groups of samples -/

theorem same_aboutRun {d : Descriptor} {value : CollectorRun → Float} {runs : List CollectorRun}
    {t : Sample} (h : t ∈ runs.map (aboutRun d value)) : t.descriptor = d ∧ t.type = .gauge := by
  obtain ⟨r, -, rfl⟩ := List.mem_map.mp h
  exact ⟨rfl, rfl⟩

/-- A metric about the runs has the same family in every order of arrival. -/
theorem Sound.ofGroup?_run (hs : s.Sound) (h : s.Arrives order) {d : Descriptor}
    {value : CollectorRun → Float} (hd : d ∈ ownDescriptors)
    (hlabels : d.labelNames = ["collector"]) (hup : s.upSample.name ≠ d.name)
    (hclosing : ∀ r, (closing r).filter (·.name = d.name) = [aboutRun d value r]) :
    Family.ofGroup? (Family.group order d.name) =
      Family.ofGroup? (s.runs.map (aboutRun d value)) := by
  have hperm := hs.group_run_arrived h hd hup hclosing
  refine (Family.ofGroup?_perm hperm.symm (isValid_own hd) MetricType.noConfusion
    (fun t => same_aboutRun) ?_ ?_).symm
  · intro t ht
    obtain ⟨r, -, rfl⟩ := List.mem_map.mp ht
    simp [Sample.isComplete, aboutRun, Sample.of, hlabels]
  · rw [List.map_map]
    exact hs.nodup_keys

theorem Sound.ofGroup?_success (hs : s.Sound) (h : s.Arrives order) :
    Family.ofGroup? (Family.group order successDescriptor.name) =
      Family.ofGroup? (s.runs.map (aboutRun successDescriptor fun r => switch r.succeeded)) :=
  hs.ofGroup?_run h (by simp [ownDescriptors]) rfl (by rw [name_upSample]; decide) fun _ => rfl

theorem Sound.ofGroup?_duration (hs : s.Sound) (h : s.Arrives order) :
    Family.ofGroup? (Family.group order durationDescriptor.name) =
      Family.ofGroup? (s.runs.map (aboutRun durationDescriptor fun r => r.elapsed.toSeconds)) :=
  hs.ofGroup?_run h (by simp [ownDescriptors]) rfl (by rw [name_upSample]; decide) fun _ => rfl

/-- The samples of any name have the same family in every order of arrival. -/
theorem Sound.ofGroup?_group (hs : s.Sound) (h : s.Arrives order) (name : String) :
    Family.ofGroup? (Family.group order name) =
      Family.ofGroup? (Family.group s.samples name) := by
  by_cases howned : ∃ c : Collector, c.owns name = true
  · -- The samples of a collector arrive as it sent them.
    obtain ⟨c, hc⟩ := howned
    have hgroup (ss : List Sample) := Family.group_filter (fun n => c.owns n) ss hc
    rw [← hgroup order, ← hgroup s.samples, hs.filter_owns h, hs.filter_owns s.arrives_samples]
  by_cases hown : ∃ d ∈ ownDescriptors, d.name = name
  · obtain ⟨d, hd, rfl⟩ := hown
    simp only [ownDescriptors, List.mem_cons, List.not_mem_nil, or_false] at hd
    rcases hd with rfl | rfl | rfl
    · rw [hs.group_up_arrived h, hs.group_up]
    · rw [hs.ofGroup?_success h, hs.ofGroup?_success s.arrives_samples]
    · rw [hs.ofGroup?_duration h, hs.ofGroup?_duration s.arrives_samples]
  · -- Nobody sends a sample of any other name.
    have hnone : Family.group s.samples name = [] := by
      refine List.filter_eq_nil_iff.mpr fun t ht hname => ?_
      have hname : t.name = name := of_decide_eq_true hname
      rcases hs.isOwn_or_sends ht with ht | ⟨c, hc⟩
      · exact hown ⟨t.descriptor, ht.known, hname⟩
      · exact howned ⟨c, hname ▸ hc.owned⟩
    have hperm := h.group_perm name
    rw [hnone] at hperm ⊢
    rw [hperm.eq_nil]

/-- **Every order gives the same families.** Whatever the order in which the samples of a scrape
arrive, it shows the families that it shows in the order of the collectors. -/
theorem Sound.families_eq (hs : s.Sound) (h : s.Arrives order) :
    Family.ofSamples (Sample.accepted order) = s.families := by
  rw [families, hs.accepted_eq h, hs.accepted_eq s.arrives_samples]
  refine Family.ofSamples_congr (fun name => ?_) (hs.ofGroup?_group h)
  simp only [h.perm.mem_iff]

end Scrape

/-! ## Measured times -/

/-- The same run with other times. -/
def CollectorRun.retimed (started ended : Duration) (r : CollectorRun) : CollectorRun :=
  ⟨r.collector, started, { r.run with ended }⟩

/-- The same scrape with other times measured for its runs: for each collector when it started and
when it ended. -/
def Scrape.retimed (clock : Collector → Duration × Duration) (s : Scrape) : Scrape :=
  { s with runs := s.runs.map fun r => r.retimed (clock r.collector).1 (clock r.collector).2 }

/-- What a family shows apart from measured times: the durations of runs are taken for zero. -/
def Family.untimed (f : Family) : Family :=
  if f.name = Scrape.durationDescriptor.name then
    { f with series := f.series.map fun t => ⟨t.labels, .single 0⟩ }
  else f

theorem Family.map_ofSamples_congr {change : Family → Family} {ss ss' : List Sample}
    (hnames : names ss = names ss')
    (h : ∀ name, (ofGroup? (group ss name)).map change = (ofGroup? (group ss' name)).map change) :
    (ofSamples ss).map change = (ofSamples ss').map change := by
  rw [ofSamples, ofSamples, hnames, List.map_filterMap, List.map_filterMap]
  exact List.filterMap_congr fun name _ => h name

namespace Scrape

variable {s : Scrape}

theorem runsOf_retimed (clock : Collector → Duration × Duration) (s : Scrape) (c : Collector) :
    (s.retimed clock).runsOf c =
      (s.runsOf c).map fun r => r.retimed (clock r.collector).1 (clock r.collector).2 := by
  rw [runsOf, retimed, List.filter_map]
  rfl

/-- What is common to all scrapes does not depend on the times. -/
theorem Sound.retimed (hs : s.Sound) (clock : Collector → Duration × Duration) :
    (s.retimed clock).Sound where
  distinct := by
    have hmap : (s.retimed clock).runs.map (·.collector) = s.runs.map (·.collector) := by
      rw [Scrape.retimed, List.map_map]
      rfl
    rw [hmap]
    exact hs.distinct
  sends := by
    intro r' hr' t ht
    obtain ⟨r, hr, rfl⟩ := List.mem_map.mp hr'
    exact hs.sends r hr t ht
  executed := by
    intro c
    rw [runsOf_retimed, List.flatMap_map]
    exact hs.executed c

theorem samples_eq_flatMap (s : Scrape) :
    s.samples = s.upSample :: s.runs.flatMap CollectorRun.sent := rfl

theorem closing_eq (r : CollectorRun) :
    closing r = [aboutRun successDescriptor (fun r => switch r.succeeded) r,
      aboutRun durationDescriptor (fun r => r.elapsed.toSeconds) r] := rfl

/-- Only the durations of the runs are samples of a measured time. -/
theorem group_retimed (clock : Collector → Duration × Duration) (s : Scrape) {name : String}
    (h : name ≠ durationDescriptor.name) :
    Family.group (s.retimed clock).samples name = Family.group s.samples name := by
  have hsent (started ended : Duration) (r : CollectorRun) :
      (r.retimed started ended).sent.filter (fun t => decide (t.name = name)) =
        r.sent.filter fun t => decide (t.name = name) := by
    have hclosing (r : CollectorRun) :
        (closing r).filter (fun t => decide (t.name = name)) =
          [aboutRun successDescriptor (fun r => switch r.succeeded) r].filter
            fun t => decide (t.name = name) := by
      have hname : (aboutRun durationDescriptor (fun r => r.elapsed.toSeconds) r).name ≠ name :=
        Ne.symm h
      rw [closing_eq, List.filter_cons, List.filter_cons, List.filter_singleton]
      simp [hname]
    rw [CollectorRun.sent, CollectorRun.sent, List.filter_append, List.filter_append, hclosing,
      hclosing]
    rfl
  rw [samples_eq_flatMap, samples_eq_flatMap, Family.group, Family.group, List.filter_cons,
    List.filter_cons, List.filter_flatMap, List.filter_flatMap, retimed, List.flatMap_map]
  simp only [hsent]
  rfl

theorem names_retimed (clock : Collector → Duration × Duration) (s : Scrape) :
    Family.names (s.retimed clock).samples = Family.names s.samples := by
  have hclosing (r : CollectorRun) :
      (closing r).map Sample.name = [successDescriptor.name, durationDescriptor.name] := rfl
  have hsent (started ended : Duration) (r : CollectorRun) :
      (r.retimed started ended).sent.map Sample.name = r.sent.map Sample.name := by
    rw [CollectorRun.sent, CollectorRun.sent, List.map_append, List.map_append, hclosing, hclosing]
    rfl
  have hmap : (s.retimed clock).samples.map Sample.name = s.samples.map Sample.name := by
    rw [samples_eq_flatMap, samples_eq_flatMap, List.map_cons, List.map_cons, List.map_flatMap,
      List.map_flatMap, retimed, List.flatMap_map]
    simp only [hsent]
    rfl
  rw [Family.names, Family.names, hmap]

/-- The family of the durations, apart from the times. -/
theorem untimed_ofGroup?_duration {runs : List CollectorRun}
    (hkeys : (runs.map fun r => Entry.key [r.collector.name]).Nodup)
    (value : CollectorRun → Float) :
    (Family.ofGroup? (runs.map (aboutRun durationDescriptor value))).map Family.untimed =
      if runs = [] then none
      else some ⟨durationDescriptor.name, durationDescriptor.help, .gauge,
        Family.sortSeries (runs.map fun r => ⟨collectorLabel r.collector, .single 0⟩)⟩ := by
  by_cases hne : runs = []
  · subst hne
    rfl
  · have hseries : ((runs.map (aboutRun durationDescriptor value)).map Sample.series).map
        (fun t : Series => (⟨t.labels, .single 0⟩ : Series)) =
          runs.map fun r => ⟨collectorLabel r.collector, .single 0⟩ := by
      rw [List.map_map, List.map_map]
      refine List.map_congr_left fun r _ => ?_
      have hlabels : durationDescriptor.labelNames = ["collector"] := rfl
      rw [Function.comp_apply, Function.comp_apply, series_aboutRun hlabels]
    have hsort := Family.map_sortSeries (fun t => ⟨t.labels, .single 0⟩) (fun _ => rfl)
      ((runs.map (aboutRun durationDescriptor value)).map Sample.series)
    rw [hseries] at hsort
    rw [Family.ofGroup?_of_same (by decide) (by decide) (by simpa using hne)
      (fun t => same_aboutRun)
      (by rw [List.map_map]; exact hkeys), Option.map_some, Family.untimed, if_pos rfl, hsort,
      if_neg hne]
    rfl

/-- Apart from measured times, a scrape shows the same with any times. -/
theorem Sound.untimed_families (hs : s.Sound) (clock : Collector → Duration × Duration) :
    (s.retimed clock).families.map Family.untimed = s.families.map Family.untimed := by
  rw [families, families, (hs.retimed clock).accepted_eq (arrives_samples _),
    hs.accepted_eq (arrives_samples _)]
  refine Family.map_ofSamples_congr (names_retimed clock s) fun name => ?_
  by_cases hname : name = durationDescriptor.name
  · subst hname
    rw [(hs.retimed clock).ofGroup?_duration (arrives_samples _),
      hs.ofGroup?_duration s.arrives_samples,
      untimed_ofGroup?_duration (hs.retimed clock).nodup_keys,
      untimed_ofGroup?_duration hs.nodup_keys]
    simp [Scrape.retimed, Function.comp_def, CollectorRun.retimed]
  · rw [group_retimed clock s hname]

end Scrape

/-- **Completion order does not matter.** Fix what every collector of a scrape sends and how its run
ends. In whatever order the samples of the runs reach the sink, with whatever times measured, every
sample arrives once and is accepted, and the families are the same apart from the measured times. -/
theorem Exporter.order_irrelevant (e : Exporter) (server : Server) (log : Log)
    (now budget : Duration) (clock clock' : Collector → Duration × Duration)
    {order order' : List Sample} :
    let s := (e.scrape server log now budget).2.scrape
    (s.retimed clock).Arrives order → (s.retimed clock').Arrives order' →
      order.Perm (s.retimed clock).samples ∧ Sample.accepted order = order ∧
        (Family.ofSamples (Sample.accepted order)).map Family.untimed =
          (Family.ofSamples (Sample.accepted order')).map Family.untimed := by
  intro s h h'
  have hs : s.Sound := Scrape.sound_scrape e server log now budget
  refine ⟨h.perm, (hs.retimed clock).accepted_eq h, ?_⟩
  rw [(hs.retimed clock).families_eq h, (hs.retimed clock').families_eq h',
    hs.untimed_families clock, hs.untimed_families clock']

/-- Two runs that send two samples each can take turns. -/
private theorem interleaving_turns {α : Type} (a b c d : α) :
    Interleaving [[a, b], [c, d]] [c, a, b, d] := by
  refine @Interleaving.next _ [[a, b]] [] c [d] _ ?_
  refine @Interleaving.next _ [] [[d]] a [b] _ ?_
  refine @Interleaving.next _ [] [[d]] b [] _ ?_
  exact @Interleaving.next _ [[]] [] d [] _ (.done (by simp))

/-- A server that tells its version and understands nothing else. -/
def versionOnly : Server :=
  .ofReplies fun sql =>
    if sql = Scrape.versionSql then [{ result := .ok ⟨["VERSION()"], [[some "8.0.36"]]⟩ }] else []

theorem Exporter.order_irrelevant_turns :
    let e : Exporter := { settings := { enabled := ["global_status", "user"] } }
    let s := (e.scrape versionOnly [] ⟨0⟩ (.ofWholeSeconds 1)).2.scrape
    let quick := s.retimed fun _ => (⟨0⟩, ⟨0⟩)
    let slow := s.retimed fun _ => (⟨0⟩, .ofWholeSeconds 1)
    ∃ order, slow.Arrives order ∧ order.map Sample.labels ≠ slow.samples.map Sample.labels ∧
      quick.Arrives quick.samples ∧
      (Family.ofSamples (Sample.accepted order)).map Family.untimed =
        (Family.ofSamples (Sample.accepted quick.samples)).map Family.untimed := by
  intro e s quick slow
  have hslow : slow.Arrives (slow.upSample :: [_, _, _, _]) :=
    ⟨_, rfl, interleaving_turns _ _ _ _⟩
  have hquick := quick.arrives_samples
  exact ⟨_, hslow, by decide, hquick,
    (Exporter.order_irrelevant e versionOnly [] ⟨0⟩ (.ofWholeSeconds 1) _ _ hslow hquick).2.2⟩

end MysqlMetrics
