import MysqlMetrics.Proofs.Scrape.Arrival

/-!
# What a scrape shows of itself

Whatever the collectors send, and in whatever order it arrives, a block shows once whether the
server is up, and once for each collector that ran whether it succeeded and how long it took.

* `Sound.named_up`, `Sound.seriesOf_success`, `Sound.seriesOf_duration`: what is shown under these
  three names.
* `Sound.readings_success`, `Sound.readings_duration`: what is shown of one collector's run.
* `Sound.filter_families`: the families that a collector owns are those of its own samples.
* `Sound.own_or_owned`: a block has no other families.
-/

namespace MysqlMetrics

namespace Scrape

/-- The labels that tell a collector. -/
def collectorLabel (c : Collector) : List (String × String) := [("collector", c.name)]

/-- The value of a switch. -/
def switch (on : Bool) : Float := if on then 1 else 0

/-- A sample about a run: a metric with the collector as its label. -/
def aboutRun (d : Descriptor) (value : CollectorRun → Float) (r : CollectorRun) : Sample :=
  .of d .gauge (value r) [r.collector.name]

variable {s : Scrape} {order : List Sample}

/-- The samples with the name of a metric about the scrape are those about the scrape. -/
theorem Sound.group_own (hs : s.Sound) {d : Descriptor} (hd : d ∈ ownDescriptors) :
    Family.group s.samples d.name =
      Family.group (s.upSample :: s.runs.flatMap closing) d.name := by
  rw [samples, Family.group, Family.group, List.filter_cons, List.filter_cons, List.filter_flatMap,
    List.filter_flatMap]
  have : s.runs.flatMap (fun r => (r.run.outcome.samples ++ closing r).filter (·.name = d.name)) =
      s.runs.flatMap fun r => (closing r).filter (·.name = d.name) := by
    refine List.flatMap_congr fun r hr => ?_
    have hnone : (r.run.outcome.samples.filter (·.name = d.name)) = [] := by
      refine List.filter_eq_nil_iff.mpr fun t ht => ?_
      have howned := (hs.sends r hr t ht).owned
      intro hname
      rw [of_decide_eq_true hname, owns_own hd] at howned
      cases howned
    rw [List.filter_append, hnone, List.nil_append]
  rw [this]

@[simp] theorem name_upSample (s : Scrape) : s.upSample.name = upDescriptor.name := rfl

theorem isValid_upSample (s : Scrape) : s.upSample.descriptor.isValid = true :=
  (by decide : upDescriptor.isValid = true)

theorem Sound.group_up (hs : s.Sound) :
    Family.group s.samples upDescriptor.name = [s.upSample] := by
  have hclosing (r : CollectorRun) : (closing r).filter (·.name = upDescriptor.name) = [] := rfl
  rw [hs.group_own (by simp [ownDescriptors]), Family.group, List.filter_cons, List.filter_flatMap]
  simp [hclosing]

/-- A metric about the runs has one sample for each of them. -/
theorem Sound.group_run (hs : s.Sound) {d : Descriptor} {value : CollectorRun → Float}
    (hd : d ∈ ownDescriptors) (hup : s.upSample.name ≠ d.name)
    (hclosing : ∀ r, (closing r).filter (·.name = d.name) = [aboutRun d value r]) :
    Family.group s.samples d.name = s.runs.map (aboutRun d value) := by
  rw [hs.group_own hd, Family.group, List.filter_cons, if_neg (decide_eq_true_iff.not.mpr hup),
    List.filter_flatMap, List.map_eq_flatMap]
  exact List.flatMap_congr fun r _ => hclosing r

/-- In any order of arrival there is one sample about the server. -/
theorem Sound.group_up_arrived (hs : s.Sound) (h : s.Arrives order) :
    Family.group order upDescriptor.name = [s.upSample] :=
  List.perm_singleton.mp (hs.group_up ▸ h.group_perm upDescriptor.name)

/-- In any order of arrival a metric about the runs has one sample for each of them. -/
theorem Sound.group_run_arrived (hs : s.Sound) (h : s.Arrives order) {d : Descriptor}
    {value : CollectorRun → Float} (hd : d ∈ ownDescriptors) (hup : s.upSample.name ≠ d.name)
    (hclosing : ∀ r, (closing r).filter (·.name = d.name) = [aboutRun d value r]) :
    (Family.group order d.name).Perm (s.runs.map (aboutRun d value)) :=
  hs.group_run hd hup hclosing ▸ h.group_perm d.name

/-! ## Series about a scrape -/

theorem series_upSample (s : Scrape) : s.upSample.series = ⟨[], .single (switch s.up)⟩ := by
  simp [Sample.series, Entry.series, Entry.ofSample, upSample, Sample.of, upDescriptor,
    Descriptor.of, switch]

theorem series_aboutRun {d : Descriptor} (hd : d.labelNames = ["collector"])
    (value : CollectorRun → Float) (r : CollectorRun) :
    (aboutRun d value r).series = ⟨collectorLabel r.collector, .single (value r)⟩ := by
  simp [Sample.series, Entry.series, Entry.ofSample, aboutRun, Sample.of, hd, collectorLabel]

theorem collectorLabel_injective {c d : Collector} (h : collectorLabel c = collectorLabel d) :
    c = d := by
  simp only [collectorLabel, List.cons.injEq, Prod.mk.injEq, and_true, true_and] at h
  exact Collector.name_injective h

/-- Samples about the runs, labelled with the collectors, have keys of their own. -/
theorem Sound.nodup_keys (hs : s.Sound) :
    (s.runs.map fun r => Entry.key [r.collector.name]).Nodup := by
  have hkey (r : CollectorRun) : Entry.key [r.collector.name] = r.collector.name := by
    simp [Entry.key]
  simp only [hkey]
  refine List.pairwise_map.mpr ((List.pairwise_map.mp hs.distinct).imp ?_)
  exact fun hne hname => hne (Collector.name_injective hname)

/-! ## The block -/

/-- The family that says whether the server is up. -/
def upFamily (value : Float) : Family :=
  ⟨"mysql_up", "Whether the MySQL server is up.", .gauge, [⟨[], .single value⟩]⟩

theorem ofGroup?_upSample (s : Scrape) :
    Family.ofGroup? [s.upSample] = some (upFamily (switch s.up)) := by
  rw [Family.ofGroup?_singleton s.isValid_upSample MetricType.noConfusion, series_upSample]
  rfl

/-- The server's state is shown once. -/
theorem Sound.named_up (hs : s.Sound) (h : s.Arrives order) :
    ((Family.ofSamples (Sample.accepted order)).filter fun f => f.name = "mysql_up") =
      [upFamily (switch s.up)] := by
  have hgroup : Family.group order "mysql_up" = [s.upSample] := hs.group_up_arrived h
  rw [hs.accepted_eq h, Family.named_ofSamples, hgroup, ofGroup?_upSample]
  rfl

/-- A metric about the runs shows each of them once. -/
theorem Sound.seriesOf_run (hs : s.Sound) (h : s.Arrives order) {d : Descriptor}
    {value : CollectorRun → Float} (hd : d ∈ ownDescriptors)
    (hlabels : d.labelNames = ["collector"]) (hup : s.upSample.name ≠ d.name)
    (hclosing : ∀ r, (closing r).filter (·.name = d.name) = [aboutRun d value r]) :
    (Family.seriesOf (Family.ofSamples (Sample.accepted order)) d.name).Perm
      (s.runs.map fun r => ⟨collectorLabel r.collector, .single (value r)⟩) := by
  have hperm := hs.group_run_arrived h hd hup hclosing
  have hshown := (hs.regular h).seriesOf_perm_of_group hperm
    (by simp [Family.agrees, aboutRun, Sample.of])
    (by rw [List.map_map]; exact hs.nodup_keys)
  rw [hs.accepted_eq h]
  simpa [Function.comp_def, series_aboutRun hlabels] using hshown

/-- The success of each run is shown once. -/
theorem Sound.seriesOf_success (hs : s.Sound) (h : s.Arrives order) :
    (Family.seriesOf (Family.ofSamples (Sample.accepted order)) successDescriptor.name).Perm
      (s.runs.map fun r => ⟨collectorLabel r.collector, .single (switch r.succeeded)⟩) :=
  hs.seriesOf_run h (by simp [ownDescriptors]) rfl (by rw [name_upSample]; decide) fun _ => rfl

/-- The duration of each run is shown once. -/
theorem Sound.seriesOf_duration (hs : s.Sound) (h : s.Arrives order) :
    (Family.seriesOf (Family.ofSamples (Sample.accepted order)) durationDescriptor.name).Perm
      (s.runs.map fun r => ⟨collectorLabel r.collector, .single r.elapsed.toSeconds⟩) :=
  hs.seriesOf_run h (by simp [ownDescriptors]) rfl (by rw [name_upSample]; decide) fun _ => rfl

/-- If a name shows a value of each run, it shows one of each collector that ran. -/
theorem Sound.readings_run (hs : s.Sound) {families : List Family} {name : String}
    {value : CollectorRun → Float} (h : (Family.seriesOf families name).Perm
      (s.runs.map fun r => ⟨collectorLabel r.collector, .single (value r)⟩)) (c : Collector) :
    Family.readings families name (collectorLabel c) =
      (s.runsOf c).map fun r => .single (value r) := by
  have hperm := Family.readings_perm h (collectorLabel c)
  have hfilter : (s.runs.map fun r => (⟨collectorLabel r.collector, .single (value r)⟩ :
      Series)).filter (fun t => t.labels = collectorLabel c) =
        (s.runsOf c).map fun r => ⟨collectorLabel r.collector, .single (value r)⟩ := by
    rw [List.filter_map, runsOf]
    congr 1
    refine List.filter_congr fun r _ => ?_
    exact decide_eq_decide.mpr ⟨collectorLabel_injective, congrArg collectorLabel⟩
  rw [hfilter, List.map_map] at hperm
  have hle := hs.length_runsOf_le c
  rcases hruns : s.runsOf c with _ | ⟨r, _ | ⟨r', rest⟩⟩
  · simpa [hruns] using hperm
  · simpa [hruns] using hperm
  · simp [hruns] at hle

/-- The success shown of a collector is that of its run, and nothing if it has none. -/
theorem Sound.readings_success (hs : s.Sound) (h : s.Arrives order) (c : Collector) :
    Family.readings (Family.ofSamples (Sample.accepted order)) successDescriptor.name
        (collectorLabel c) =
      (s.runsOf c).map fun r => .single (switch r.succeeded) :=
  hs.readings_run (hs.seriesOf_success h) c

/-- The duration shown of a collector is that of its run, and nothing if it has none. -/
theorem Sound.readings_duration (hs : s.Sound) (h : s.Arrives order) (c : Collector) :
    Family.readings (Family.ofSamples (Sample.accepted order)) durationDescriptor.name
        (collectorLabel c) =
      (s.runsOf c).map fun r => .single r.elapsed.toSeconds :=
  hs.readings_run (hs.seriesOf_duration h) c

/-- The families that a collector owns are those of its own samples, as it sent them. -/
theorem Sound.filter_families (hs : s.Sound) (h : s.Arrives order) (c : Collector) :
    ((Family.ofSamples (Sample.accepted order)).filter fun f => c.owns f.name) =
      Family.ofSamples ((s.runsOf c).flatMap (·.run.outcome.samples)) := by
  rw [hs.accepted_eq h, Family.filter_ofSamples fun name => c.owns name, hs.filter_owns h]

/-- A family is one about the scrape or has a collector that owns it. -/
theorem Sound.own_or_owned (hs : s.Sound) (h : s.Arrives order) {f : Family}
    (hf : f ∈ Family.ofSamples (Sample.accepted order)) :
    (∃ d ∈ ownDescriptors, f.name = d.name) ∨ ∃ c : Collector, c.owns f.name = true := by
  rw [hs.accepted_eq h] at hf
  obtain ⟨t, ht, hname⟩ := Family.exists_of_mem_ofSamples hf
  rcases hs.isOwn_or_sends (h.perm.mem_iff.mp ht) with hown | ⟨c, hc⟩
  · exact .inl ⟨t.descriptor, hown.known, hname.symm⟩
  · exact .inr ⟨c, hname ▸ hc.owned⟩

end Scrape

end MysqlMetrics
