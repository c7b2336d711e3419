import Mathlib.Data.List.Perm.Subperm
import MysqlMetrics.Proofs.Metric.Series
import MysqlMetrics.Proofs.Scrape.Runs

/-!
# The order in which samples arrive

Collectors run side by side and send to one sink. Each sends its samples in its own order, and those
about its run follow; beyond that the samples of a scrape may be mixed in any way. Statements about
what a scrape shows are made for every order of arrival.

* `Interleaving`: one list made of several, each in its own order. `Interleaving.filter_eq`: a
  choice that concerns one of the lists only does not see the others.
* `Scrape.Arrives`, `Scrape.Shows`: the orders in which samples can arrive, and the blocks of
  families that they give. The order of the collectors is one of them (`shows_families`).
* `Scrape.Sound.regular`: in any order, the samples of a scrape are regular.
* `Scrape.Sound.filter_owns`: a collector's samples, picked by name, arrive as it sent them.
-/

namespace MysqlMetrics

/-! ## Interleavings -/

/-- `Interleaving ls out`: `out` has the members of all the lists, each list in its own order. -/
inductive Interleaving {α : Type} : List (List α) → List α → Prop
  | done {ls : List (List α)} (h : ∀ l ∈ ls, l = []) : Interleaving ls []
  | next {before after : List (List α)} {a : α} {l out : List α}
      (h : Interleaving (before ++ l :: after) out) :
      Interleaving (before ++ (a :: l) :: after) (a :: out)

namespace Interleaving

variable {α : Type} {ls : List (List α)} {out : List α}

theorem perm (h : Interleaving ls out) : out.Perm ls.flatten := by
  induction h with
  | done h => rw [List.flatten_eq_nil_iff.mpr h]
  | @next before after a l out _ ih =>
    simp only [List.flatten_append, List.flatten_cons, List.cons_append] at ih ⊢
    exact (ih.cons a).trans List.perm_middle.symm

private theorem nil_cons (h : Interleaving ls out) : Interleaving ([] :: ls) out := by
  induction h with
  | done h => exact .done (by simpa using h)
  | @next before after a l out _ ih => exact @next _ ([] :: before) _ _ _ _ ih

/-- The lists one after another are an interleaving of them. -/
theorem flatten (ls : List (List α)) : Interleaving ls ls.flatten := by
  induction ls with
  | nil => exact .done (by simp)
  | cons l rest ih =>
    induction l with
    | nil => exact nil_cons ih
    | cons a l ihl => exact @next _ [] _ _ _ _ ihl

/-- If a choice concerns the members of one list at most, it gives the same of every
interleaving. -/
theorem filter_eq {p : α → Bool} (h : Interleaving ls out)
    (hp : ls.Pairwise fun l l' => (∀ a ∈ l, p a = false) ∨ ∀ a ∈ l', p a = false) :
    out.filter p = ls.flatten.filter p := by
  induction h with
  | done h => rw [List.flatten_eq_nil_iff.mpr h]
  | @next before after a l out _ ih =>
    rw [List.pairwise_append, List.pairwise_cons] at hp
    obtain ⟨hbefore, ⟨hl, hafter⟩, hcross⟩ := hp
    have hrest : out.filter p = (before ++ l :: after).flatten.filter p := by
      refine ih ?_
      rw [List.pairwise_append, List.pairwise_cons]
      refine ⟨hbefore, ⟨fun l' hl' => ?_, hafter⟩, fun k hk l' hl' => ?_⟩
      · exact (hl l' hl').imp_left fun h b hb => h b (List.mem_cons_of_mem a hb)
      · rcases List.mem_cons.mp hl' with rfl | hl'
        · exact (hcross k hk _ List.mem_cons_self).imp_right fun h b hb =>
            h b (List.mem_cons_of_mem a hb)
        · exact hcross k hk l' (List.mem_cons_of_mem _ hl')
    simp only [List.flatten_append, List.flatten_cons, List.filter_append] at hrest ⊢
    by_cases ha : p a = true
    · -- The choice concerns this list, so it takes nothing of those before it.
      have hnil : before.flatten.filter p = [] := by
        refine List.filter_eq_nil_iff.mpr fun b hb => ?_
        obtain ⟨k, hk, hbk⟩ := List.mem_flatten.mp hb
        rcases hcross k hk _ List.mem_cons_self with h | h
        · simp [h b hbk]
        · simp [h a List.mem_cons_self] at ha
      rw [hnil, List.nil_append] at hrest ⊢
      rw [List.filter_cons_of_pos ha, List.filter_cons_of_pos ha, hrest, List.cons_append]
    · rw [List.filter_cons_of_neg ha, List.filter_cons_of_neg ha, hrest]

end Interleaving

/-! ## Orders of arrival -/

/-- All samples sent for a run: the collector's own, and then those about the run. -/
def CollectorRun.sent (r : CollectorRun) : List Sample := r.run.outcome.samples ++ Scrape.closing r

namespace Scrape

/-- The samples of a scrape can arrive in this order: that about the server first, then those sent
for the runs, mixed in any way. -/
def Arrives (s : Scrape) (order : List Sample) : Prop :=
  ∃ rest, order = s.upSample :: rest ∧ Interleaving (s.runs.map CollectorRun.sent) rest

/-- A block of families that the scrape can show, given an order in which its samples arrive. -/
def Shows (s : Scrape) (block : List Family) : Prop :=
  ∃ order, s.Arrives order ∧ block = Family.ofSamples (Sample.accepted order)

variable {s : Scrape} {order : List Sample}

theorem samples_eq (s : Scrape) :
    s.samples = s.upSample :: (s.runs.map CollectorRun.sent).flatten := by
  rw [samples, List.flatMap_def]
  rfl

/-- The samples in the order of the collectors are one order of arrival. -/
theorem arrives_samples (s : Scrape) : s.Arrives s.samples :=
  ⟨_, samples_eq s, Interleaving.flatten _⟩

theorem shows_families (s : Scrape) : s.Shows s.families := ⟨s.samples, s.arrives_samples, rfl⟩

theorem Arrives.perm (h : s.Arrives order) : order.Perm s.samples := by
  obtain ⟨rest, rfl, hrest⟩ := h
  rw [samples_eq]
  exact hrest.perm.cons _

theorem Arrives.group_perm (h : s.Arrives order) (name : String) :
    (Family.group order name).Perm (Family.group s.samples name) := h.perm.filter _

/-! ## The samples of a scrape -/

/-- The metrics about a scrape itself. -/
def ownDescriptors : List Descriptor := [upDescriptor, successDescriptor, durationDescriptor]

/-- A sample about the scrape itself. -/
structure IsOwn (t : Sample) : Prop where
  known : t.descriptor ∈ ownDescriptors
  gauge : t.type = .gauge
  complete : t.isComplete = true

theorem isOwn_upSample (s : Scrape) : IsOwn s.upSample :=
  ⟨by simp [ownDescriptors, upSample, Sample.of], rfl, rfl⟩

theorem isOwn_closing {r : CollectorRun} {t : Sample} (h : t ∈ closing r) : IsOwn t := by
  simp only [closing, List.mem_cons, List.not_mem_nil, or_false] at h
  rcases h with rfl | rfl
  · exact ⟨by simp [ownDescriptors, Sample.of], rfl, rfl⟩
  · exact ⟨by simp [ownDescriptors, Sample.of], rfl, rfl⟩

theorem isValid_own {d : Descriptor} (h : d ∈ ownDescriptors) : d.isValid = true := by
  have : ∀ d ∈ ownDescriptors, d.isValid = true := by decide
  exact this d h

/-- No collector can give a metric the name of one about the scrape. -/
theorem owns_own {d : Descriptor} (h : d ∈ ownDescriptors) (c : Collector) :
    c.owns d.name = false := by
  have : ∀ d ∈ ownDescriptors, c.owns d.name = false := by cases c <;> decide
  exact this d h

theorem IsOwn.owns_eq_false {t : Sample} (h : IsOwn t) (c : Collector) : c.owns t.name = false :=
  owns_own h.known c

/-- Every sample of a scrape is about the scrape or sent by a collector. -/
theorem Sound.isOwn_or_sends (hs : s.Sound) {t : Sample} (h : t ∈ s.samples) :
    IsOwn t ∨ ∃ c : Collector, c.Sends t := by
  rcases List.mem_cons.mp h with rfl | h
  · exact .inl (isOwn_upSample s)
  · obtain ⟨r, hr, ht⟩ := List.mem_flatMap.mp h
    rcases List.mem_append.mp ht with ht | ht
    · exact .inr ⟨r.collector, hs.sends r hr t ht⟩
    · exact .inl (isOwn_closing ht)

/-- The sink drops nothing: every sample of a scrape is complete. -/
theorem Sound.accepted_eq (hs : s.Sound) (h : s.Arrives order) : Sample.accepted order = order := by
  refine List.filter_eq_self.mpr fun t ht => ?_
  rcases hs.isOwn_or_sends (h.perm.mem_iff.mp ht) with hown | ⟨c, hc⟩
  · exact hown.complete
  · exact hc.complete

/-- **Scrapes are regular.** In any order of arrival, each sample of a scrape can be shown, and two
of one name with the same label values have the same type and label names. -/
theorem Sound.regular (hs : s.Sound) (h : s.Arrives order) : Family.Regular order := by
  have hmem {t : Sample} (ht : t ∈ order) : IsOwn t ∨ ∃ c : Collector, c.Sends t :=
    hs.isOwn_or_sends (h.perm.mem_iff.mp ht)
  refine ⟨fun t ht => ?_, fun t ht => ?_, fun t ht u hu hname hlabels => ?_⟩
  · rcases hmem ht with hown | ⟨c, hc⟩
    · exact isValid_own hown.known
    · exact hc.valid
  · rcases hmem ht with hown | ⟨c, hc⟩
    · rw [hown.gauge]
      decide
    · exact Collector.type_ne_counter hc
  · rcases hmem ht with hown | ⟨c, hc⟩ <;> rcases hmem hu with hown' | ⟨d, hd⟩
    · have : ∀ d ∈ ownDescriptors, ∀ d' ∈ ownDescriptors, d.name = d'.name → d = d' := by decide
      exact ⟨hown.gauge.trans hown'.gauge.symm,
        congrArg _ (this _ hown.known _ hown'.known hname)⟩
    · have := hown.owns_eq_false d
      rw [hname, hd.owned] at this
      cases this
    · have := hown'.owns_eq_false c
      rw [← hname, hc.owned] at this
      cases this
    · -- One name means one collector, and there the number of labels tells the schema.
      have hcd : c = d := Collector.eq_of_owns hc.owned (hname ▸ hd.owned)
      subst hcd
      have hlen : t.descriptor.labelNames.length = u.descriptor.labelNames.length := by
        have h1 := of_decide_eq_true hc.complete
        have h2 := of_decide_eq_true hd.complete
        rw [← h1, ← h2, hlabels]
      have := Collector.schema_eq_of_length hc.schema hd.schema hlen
      exact ⟨congrArg Prod.fst this, congrArg Prod.snd this⟩

/-! ## The samples of one collector -/

theorem Sound.length_runsOf_le (hs : s.Sound) (c : Collector) : (s.runsOf c).length ≤ 1 := by
  have hmap : (s.runsOf c).map (·.collector) = (s.runs.map (·.collector)).filter (· = c) := by
    rw [runsOf, List.filter_map]
    rfl
  have hnd := hs.distinct.filter fun d => decide (d = c)
  rw [← hmap] at hnd
  have hle : ((s.runsOf c).map (·.collector)).length ≤ [c].length :=
    (List.Nodup.subperm hnd fun d hd => by
      rw [hmap] at hd
      simpa using (List.mem_filter.mp hd).2).length_le
  simpa using hle

private theorem filter_owns_sent {r : CollectorRun}
    (hr : ∀ t ∈ r.run.outcome.samples, r.collector.Sends t) (c : Collector) :
    (r.sent.filter fun t => c.owns t.name) =
      if r.collector = c then r.run.outcome.samples else [] := by
  have hclosing : ((closing r).filter fun t => c.owns t.name) = [] :=
    List.filter_eq_nil_iff.mpr fun t ht => by simp [(isOwn_closing ht).owns_eq_false c]
  rw [CollectorRun.sent, List.filter_append, hclosing, List.append_nil]
  split
  · rename_i hc
    exact List.filter_eq_self.mpr fun t ht => hc ▸ (hr t ht).owned
  · rename_i hc
    refine List.filter_eq_nil_iff.mpr fun t ht howns => hc ?_
    exact Collector.eq_of_owns (hr t ht).owned howns

private theorem filter_owns_runs {runs : List CollectorRun}
    (hr : ∀ r ∈ runs, ∀ t ∈ r.run.outcome.samples, r.collector.Sends t) (c : Collector) :
    ((runs.map CollectorRun.sent).flatten.filter fun t => c.owns t.name) =
      (runs.filter fun r => r.collector = c).flatMap (·.run.outcome.samples) := by
  induction runs with
  | nil => rfl
  | cons r rest ih =>
    have hrest := ih fun r' hr' => hr r' (List.mem_cons_of_mem r hr')
    rw [List.map_cons, List.flatten_cons, List.filter_append, hrest,
      filter_owns_sent (hr r List.mem_cons_self)]
    by_cases hc : r.collector = c
    · simp [hc]
    · simp [hc]

/-- **Nothing comes between.** The samples with names of a collector arrive as the collector sent
them, whatever the order among the collectors, and there are no others. -/
theorem Sound.filter_owns (hs : s.Sound) (h : s.Arrives order) (c : Collector) :
    (order.filter fun t => c.owns t.name) = (s.runsOf c).flatMap (·.run.outcome.samples) := by
  obtain ⟨rest, rfl, hrest⟩ := h
  have hup : (c.owns s.upSample.name) = false := (isOwn_upSample s).owns_eq_false c
  have hother {r : CollectorRun} (hr : r ∈ s.runs) (hc : r.collector ≠ c) :
      ∀ t ∈ r.sent, c.owns t.name = false := by
    have := filter_owns_sent (hs.sends r hr) c
    rw [if_neg hc, List.filter_eq_nil_iff] at this
    simpa using this
  have hpairs : (s.runs.map CollectorRun.sent).Pairwise fun l l' =>
      (∀ t ∈ l, c.owns t.name = false) ∨ ∀ t ∈ l', c.owns t.name = false := by
    refine List.pairwise_map.mpr ((List.pairwise_map.mp hs.distinct).imp_of_mem ?_)
    intro r r' hr hr' hne
    by_cases hc : r.collector = c
    · exact .inr (hother hr' fun hc' => hne (hc.trans hc'.symm))
    · exact .inl (hother hr hc)
  simp only [List.filter_cons, hup, Bool.false_eq_true, if_false]
  rw [hrest.filter_eq hpairs, filter_owns_runs hs.sends]
  rfl

/-- What a collector sends in a scrape is regular by itself. -/
theorem Sound.regular_sent (hs : s.Sound) (c : Collector) :
    Family.Regular ((s.runsOf c).flatMap (·.run.outcome.samples)) := by
  rw [← hs.filter_owns s.arrives_samples c]
  exact (hs.regular s.arrives_samples).mono List.filter_sublist.subset

end Scrape

end MysqlMetrics
