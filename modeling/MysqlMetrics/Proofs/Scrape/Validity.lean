import MysqlMetrics.Proofs.Metric.Meaning
import MysqlMetrics.Proofs.Scrape.Arrival

/-!
# No sample is lost for its form

The sink drops a sample that has not a value for each label, and an exposition has no family for a
descriptor that it can not show. Names are made of text that the server chooses, so both could
happen for an odd enough answer. They do not.

* `Sample.IsProper`: the form that all samples have, in terms of their characters.
* `Collector.Sends.isProper`, `Scrape.IsOwn.isProper`: the samples of collectors, and those about a
  scrape itself.
* `Family.Regular.exists_family`: regular samples have a family each.
* `Exporter.samples_proper`: every sample of every scrape.
-/

namespace MysqlMetrics

/-- A sample that can be shown: a value for each label, a help, label names that are words and do
not repeat, and a name of the namespace that has lower-case letters, digits and underscores only. -/
structure Sample.IsProper (s : Sample) : Prop where
  complete : s.labels.length = s.descriptor.labelNames.length
  help : s.descriptor.help ≠ ""
  distinct : s.descriptor.labelNames.Nodup
  labelNames : ∀ label ∈ s.descriptor.labelNames, ∃ c rest, label.toList = c :: rest ∧
    (c.isAlpha ∨ c = '_') ∧ ∀ d ∈ rest, d.isAlphanum ∨ d = '_'
  name : ∃ rest, s.name = "mysql_" ++ rest ∧
    ∀ c ∈ rest.toList, c.isLower ∨ c.isDigit ∨ c = '_'

/-! ## Valid descriptors -/

namespace Descriptor

variable {d : Descriptor}

theorem help_ne_empty (h : d.isValid = true) : d.help ≠ "" := by
  simp only [isValid, Bool.and_eq_true] at h
  exact of_decide_eq_true h.1.1.1

theorem isValidName_name (h : d.isValid = true) : Metric.isValidName d.name = true := by
  simp only [isValid, Bool.and_eq_true] at h
  exact h.1.1.2

theorem isValidLabel_of_mem (h : d.isValid = true) {label : String}
    (hlabel : label ∈ d.labelNames) : Metric.isValidLabel label = true := by
  simp only [isValid, Bool.and_eq_true] at h
  exact List.all_eq_true.mp h.1.2 label hlabel

end Descriptor

/-- A valid label name is a word. -/
theorem Metric.exists_of_isValidLabel {label : String} (h : isValidLabel label = true) :
    ∃ c rest, label.toList = c :: rest ∧ (c.isAlpha ∨ c = '_') ∧
      ∀ d ∈ rest, d.isAlphanum ∨ d = '_' := by
  rw [isValidLabel] at h
  split at h
  · cases h
  · rename_i c rest htext
    simp only [Bool.and_eq_true, Bool.or_eq_true, decide_eq_true_eq, List.all_eq_true] at h
    exact ⟨c, rest, htext, h.1, h.2⟩

namespace Sample

variable {s : Sample}

/-- A complete sample with a valid descriptor, whose name has name characters only and begins with
the namespace. -/
theorem isProper_of (hcomplete : s.isComplete = true) (hvalid : s.descriptor.isValid = true)
    (hspelled : Metric.isNameText s.name = true) {rest : List Char}
    (hname : s.name.toList = "mysql_".toList ++ rest) : s.IsProper where
  complete := of_decide_eq_true hcomplete
  help := Descriptor.help_ne_empty hvalid
  distinct := Descriptor.nodup_labelNames hvalid
  labelNames label hlabel :=
    Metric.exists_of_isValidLabel (Descriptor.isValidLabel_of_mem hvalid hlabel)
  name := by
    refine ⟨String.ofList rest, ?_, fun c hc => ?_⟩
    · simp [← String.toList_inj, hname]
    · rw [String.toList_ofList] at hc
      have hchar := List.all_eq_true.mp hspelled c (hname ▸ List.mem_append_right _ hc)
      simpa [Metric.isNameChar, or_assoc] using hchar

end Sample

theorem Collector.Sends.isProper {c : Collector} {s : Sample} (h : c.Sends s) : s.IsProper := by
  obtain ⟨rest, hrest⟩ := owns_iff.mp h.owned
  have hstem : c.stem.toList = "mysql_".toList ++ c.name.toList := by
    simp [stem, metricNamespace]
  rw [hstem, List.append_assoc] at hrest
  exact Sample.isProper_of h.complete h.valid h.spelled hrest

theorem Scrape.IsOwn.isProper {t : Sample} (h : IsOwn t) : t.IsProper := by
  have hspelled : ∀ d ∈ ownDescriptors, Metric.isNameText d.name = true := by decide
  have hname : ∀ d ∈ ownDescriptors,
      d.name.toList = "mysql_".toList ++ d.name.toList.drop "mysql_".length := by decide
  exact Sample.isProper_of h.complete (isValid_own h.known) (hspelled _ h.known)
    (hname _ h.known)

/-- The first sample of a name settles whether there is a family: here it can be shown and is
entered, so there is one. -/
theorem Family.Regular.exists_family {ss : List Sample} (h : Regular ss) {t : Sample}
    (ht : t ∈ ss) : ∃ f ∈ ofSamples ss, f.name = t.name := by
  obtain ⟨first, rest, hgroup⟩ :=
    List.exists_cons_of_ne_nil (List.ne_nil_of_mem (mem_group.mpr ⟨ht, rfl⟩))
  have hfirst : first ∈ ss := (mem_group.mp (hgroup ▸ List.mem_cons_self)).1
  have hcounts : first ∈ counting ss t.name := by
    rw [← distinct_conforming_group, hgroup]
    exact List.mem_cons_self
  refine exists_family_iff.mpr ⟨⟨first, ?_, h.valid first hfirst⟩, first, hcounts, ?_⟩
  · rw [hgroup]
    rfl
  · exact fun hrejected => h.noCounter first hfirst hrejected.1

/-! ## Scrapes -/

/-- **No sample is lost for its form.** Whatever a server answers, every sample that a collector
sends is proper, and the sink accepts it. Of a scrape this holds of all samples, also of those about
the server and the runs, in whatever order they arrive; the descriptor of each can be shown, and
there is a family of its name. -/
theorem Exporter.samples_proper :
    (∀ (c : Collector) (server : Server) (deadline : Deadline) (log : Log) (now : Duration),
      let sent := (c.collect server deadline log now).outcome.samples
      Sample.accepted sent = sent ∧ ∀ s ∈ sent, s.IsProper) ∧
    ∀ (e : Exporter) (server : Server) (log : Log) (now budget : Duration) (order : List Sample),
      (e.scrape server log now budget).2.scrape.Arrives order →
      Sample.accepted order = order ∧
        ∀ t ∈ order, t.IsProper ∧ Metric.isValidName t.name = true ∧
          t.descriptor.isValid = true ∧
          ∃ f ∈ Family.ofSamples (Sample.accepted order), f.name = t.name := by
  constructor
  · intro c server deadline log now sent
    have hsends : ∀ s ∈ sent, c.Sends s := fun s => Collector.sends_collect
    exact ⟨List.filter_eq_self.mpr fun s hs => (hsends s hs).complete,
      fun s hs => (hsends s hs).isProper⟩
  · intro e server log now budget order harrives
    have hsound := Scrape.sound_scrape e server log now budget
    have hregular := hsound.regular harrives
    have haccepted := hsound.accepted_eq harrives
    refine ⟨haccepted, fun t ht => ?_⟩
    have hvalid := hregular.valid t ht
    refine ⟨?_, Descriptor.isValidName_name hvalid, hvalid, ?_⟩
    · rcases hsound.isOwn_or_sends (harrives.perm.mem_iff.mp ht) with hown | ⟨c, hsends⟩
      · exact hown.isProper
      · exact hsends.isProper
    · rw [haccepted]
      exact hregular.exists_family ht

/-- A server whose status variables have an empty name, and names with other than ASCII letters and
with separators only. -/
def oddNames : Server :=
  .ofReplies fun sql =>
    if sql = Scrape.versionSql then [{ result := .ok ⟨["VERSION()"], [[some "8.0.36"]]⟩ }]
    else if sql = StatusVariables.sql then
      [{ result := .ok ⟨["Variable_name", "Value"],
        [[some "", some "1"], [some "Größe", some "2"], [some "-.-", some "3"]]⟩ }]
    else []

theorem Exporter.samples_proper_oddNames :
    let e : Exporter := { settings := { enabled := ["global_status"] } }
    let s := (e.scrape oddNames [] ⟨0⟩ (.ofWholeSeconds 30)).2.scrape
    (Collector.statusVariables.collect oddNames none [] ⟨0⟩).outcome.samples.map Sample.name =
        ["mysql_global_status", "mysql_global_status_gr__e", "mysql_global_status____"] ∧
      (∀ t ∈ (Collector.statusVariables.collect oddNames none [] ⟨0⟩).outcome.samples,
        t.IsProper) ∧
      s.Arrives s.samples ∧ s.samples.length = 6 ∧
      ∀ t ∈ s.samples, ∃ f ∈ Family.ofSamples (Sample.accepted s.samples), f.name = t.name := by
  intro e s
  obtain ⟨hcollectors, hscrapes⟩ := Exporter.samples_proper
  have harrives : s.Arrives s.samples := s.arrives_samples
  obtain ⟨-, hall⟩ := hscrapes e oddNames [] ⟨0⟩ (.ofWholeSeconds 30) s.samples harrives
  exact ⟨by decide, (hcollectors .statusVariables oddNames none [] ⟨0⟩).2, harrives, by decide,
    fun t ht => (hall t ht).2.2.2⟩

end MysqlMetrics
