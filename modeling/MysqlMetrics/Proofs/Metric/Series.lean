import Mathlib.Data.List.Nodup
import Mathlib.Data.List.Perm.Subperm
import MysqlMetrics.Proofs.Metric.Grouping

/-!
# Series of a family

The samples of a name that count become the entries of its family, one for each key. A key is the
text of all label values one after another, so two samples with different label values may share one
(`"ab", "c"` and `"a", "bc"`), and then they share an entry.

* `Entry.foldl_enter_of_nodup`: samples with different keys become an entry each.
* `Entry.keys_foldl`: in any case the keys of the entries are those of the samples, each once.
* `Family.leading`: the samples of a name that are the first with their label values and agree with
  the first sample of the name. Among `Regular` samples they are the ones that count.
* `Family.seriesOf_perm_iff`: a family shows each of them as it is exactly if their keys differ.
* `Family.mem_ofSamples_of_labels`: the families of samples without labels.
-/

namespace MysqlMetrics

/-! ## Entries and keys -/

namespace Entry

/-- The keys of entries. -/
def keys (es : List Entry) : List String := es.map fun e => key e.labels

/-- The entry that a sample begins. -/
def ofSample (s : Sample) : Entry := ⟨s.labels, s.value⟩

theorem put_of_mem {labels : List String} {change : Option Float → Float} {es : List Entry}
    (h : key labels ∈ keys es) : keys (put labels change es) = keys es := by
  induction es with
  | nil => cases h
  | cons e rest ih =>
    by_cases he : key e.labels = key labels
    · simp [put, he, keys]
    · have hrest : key labels ∈ keys rest := by
        simpa [keys, Ne.symm he] using h
      have := ih hrest
      simp only [keys] at this
      simp [put, he, keys, this]

theorem put_of_not_mem {labels : List String} {change : Option Float → Float} {es : List Entry}
    (h : key labels ∉ keys es) : put labels change es = es ++ [⟨labels, change none⟩] := by
  induction es with
  | nil => rfl
  | cons e rest ih =>
    simp only [keys, List.map_cons, List.mem_cons, not_or] at h
    simp [put, Ne.symm h.1, ih h.2]

theorem mem_keys_put {labels : List String} {change : Option Float → Float} {es : List Entry}
    {k : String} : k ∈ keys (put labels change es) ↔ k ∈ keys es ∨ key labels = k := by
  by_cases h : key labels ∈ keys es
  · rw [put_of_mem h]
    constructor
    · exact .inl
    · rintro (hk | rfl)
      · exact hk
      · exact h
  · rw [put_of_not_mem h]
    simp [keys, eq_comm]

theorem nodup_keys_put {labels : List String} {change : Option Float → Float} {es : List Entry}
    (h : (keys es).Nodup) : (keys (put labels change es)).Nodup := by
  by_cases hk : key labels ∈ keys es
  · rwa [put_of_mem hk]
  · rw [put_of_not_mem hk]
    simp only [keys, List.map_append, List.map_cons, List.map_nil]
    refine List.nodup_append.mpr ⟨h, by simp, fun a ha b hb => ?_⟩
    rw [List.mem_singleton.mp hb]
    exact fun hab => hk (hab ▸ ha)

theorem enter_of_ne_counter {es : List Entry} {s : Sample} (h : s.type ≠ .counter) :
    enter es s = put s.labels (fun _ => s.value) es := by
  rw [enter]
  split
  · contradiction
  · rfl
  · rfl

variable {ss : List Sample} {es : List Entry}

/-- The keys of the entries are those of the samples, each once. -/
theorem keys_foldl (hss : ∀ s ∈ ss, s.type ≠ .counter) (hes : (keys es).Nodup) :
    (keys (ss.foldl enter es)).Nodup ∧
      ∀ k, k ∈ keys (ss.foldl enter es) ↔ k ∈ keys es ∨ ∃ s ∈ ss, key s.labels = k := by
  induction ss generalizing es with
  | nil => simp [hes]
  | cons s rest ih =>
    rw [List.foldl_cons, enter_of_ne_counter (hss s (by simp))]
    have hput : (keys (put s.labels (fun _ => s.value) es)).Nodup := nodup_keys_put hes
    obtain ⟨hnd, hmem⟩ := ih (fun t ht => hss t (by simp [ht])) hput
    refine ⟨hnd, fun k => ?_⟩
    rw [hmem, mem_keys_put]
    simp [or_assoc]

/-- Samples with keys of their own become an entry each, as they are and in their order. -/
theorem foldl_enter_of_nodup (hss : ∀ s ∈ ss, s.type ≠ .counter)
    (h : (keys es ++ ss.map fun s => key s.labels).Nodup) :
    ss.foldl enter es = es ++ ss.map ofSample := by
  induction ss generalizing es with
  | nil => simp
  | cons s rest ih =>
    have hs : key s.labels ∉ keys es := by
      intro hs
      exact (List.nodup_append.mp h).2.2 _ hs _ (by simp) rfl
    rw [List.foldl_cons, enter_of_ne_counter (hss s (by simp)), put_of_not_mem hs]
    rw [ih (fun t ht => hss t (by simp [ht])) (by simpa [keys] using h)]
    simp [ofSample]

end Entry

/-- The series that a sample makes. -/
def Sample.series (s : Sample) : Series :=
  (Entry.ofSample s).series s.descriptor.labelNames

namespace Family

/-! ## Views of families -/

/-- The series shown under a name. -/
def seriesOf (families : List Family) (name : String) : List Series :=
  (families.filter fun f => f.name = name).flatMap series

/-- What is shown under a name with these labels. -/
def readings (families : List Family) (name : String) (labels : List (String × String)) :
    List Reading :=
  ((seriesOf families name).filter fun s => s.labels = labels).map Series.reading

theorem seriesOf_append (fs gs : List Family) (name : String) :
    seriesOf (fs ++ gs) name = seriesOf fs name ++ seriesOf gs name := by
  simp [seriesOf]

/-- What a name shows is shown by the families of any choice of names that it is among. -/
theorem seriesOf_filter {p : String → Bool} {name : String} (h : p name = true)
    (families : List Family) :
    seriesOf (families.filter fun f => p f.name) name = seriesOf families name := by
  rw [seriesOf, List.filter_filter, seriesOf]
  refine congrArg (·.flatMap series) (List.filter_congr fun f _ => ?_)
  by_cases hname : f.name = name
  · simp [hname, h]
  · simp [hname]

theorem seriesOf_eq_nil {families : List Family} {name : String}
    (h : ∀ f ∈ families, f.name ≠ name) : seriesOf families name = [] := by
  have : (families.filter fun f => f.name = name) = [] :=
    List.filter_eq_nil_iff.mpr fun f hf => by simpa using h f hf
  rw [seriesOf, this]
  rfl

/-! ## The samples that count -/

/-- The samples of a name that are the first with their label values and agree in type and label
names with the first sample of the name. -/
def leading (samples : List Sample) (name : String) : List Sample :=
  match group samples name with
  | [] => []
  | first :: rest => (distinct (first :: rest)).filter (agrees first)

/-- Samples that can be shown and grow no counter, and of which those of one name that have the same
label values also have the same type and label names. -/
structure Regular (ss : List Sample) : Prop where
  valid : ∀ s ∈ ss, s.descriptor.isValid = true
  noCounter : ∀ s ∈ ss, s.type ≠ .counter
  schema : ∀ s ∈ ss, ∀ t ∈ ss, s.name = t.name → s.labels = t.labels →
    s.type = t.type ∧ s.descriptor.labelNames = t.descriptor.labelNames

theorem Regular.mono {ss few : List Sample} (h : Regular ss) (hsub : few ⊆ ss) : Regular few where
  valid s hs := h.valid s (hsub hs)
  noCounter s hs := h.noCounter s (hsub hs)
  schema s hs t ht := h.schema s (hsub hs) t (hsub ht)

theorem mem_of_mem_distinct {ss : List Sample} {s : Sample} (h : s ∈ distinct ss) : s ∈ ss := by
  induction ss with
  | nil => cases h
  | cons t rest ih =>
    rcases List.mem_cons.mp h with rfl | h
    · simp
    · exact List.mem_cons_of_mem _ (ih (List.mem_filter.mp h).1)

theorem distinct_of_nodup {ss : List Sample} (h : (ss.map Sample.labels).Nodup) :
    distinct ss = ss := by
  induction ss with
  | nil => rfl
  | cons s rest ih =>
    rw [List.map_cons, List.nodup_cons] at h
    rw [distinct, ih h.2, List.filter_eq_self.mpr]
    intro t ht
    have hne : t.labels ≠ s.labels := fun heq => h.1 (heq ▸ List.mem_map_of_mem ht)
    simpa using hne

/-- Repetitions may be left out before or after a choice that depends on the label values only. -/
theorem distinct_filter {p : Sample → Bool} {ss : List Sample}
    (hp : ∀ s ∈ ss, ∀ t ∈ ss, s.labels = t.labels → p s = p t) :
    distinct (ss.filter p) = (distinct ss).filter p := by
  induction ss with
  | nil => rfl
  | cons s rest ih =>
    have hrest := ih fun a ha b hb => hp a (by simp [ha]) b (by simp [hb])
    by_cases hs : p s = true
    · rw [List.filter_cons_of_pos hs, distinct, distinct, hrest, List.filter_cons_of_pos hs,
        List.filter_filter, List.filter_filter]
      congr 1
      exact List.filter_congr fun t _ => Bool.and_comm _ _
    · rw [List.filter_cons_of_neg hs, distinct, List.filter_cons_of_neg hs, hrest,
        List.filter_filter]
      refine List.filter_congr fun t ht => ?_
      -- A sample left out for its label values has those of `s`, which is not chosen either.
      by_cases hl : t.labels = s.labels
      · have : p t = p s := hp t (by simp [mem_of_mem_distinct ht]) s (by simp) hl
        simp [this, hs]
      · simp [hl]

variable {ss : List Sample}

theorem mem_of_mem_leading {name : String} {s : Sample} (h : s ∈ leading ss name) :
    s ∈ group ss name := by
  rw [leading] at h
  split at h
  · cases h
  · rename_i hg
    rw [hg]
    exact mem_of_mem_distinct (List.mem_filter.mp h).1

/-- Among regular samples the leading ones are those that count. -/
theorem Regular.entries_group (h : Regular ss) (name : String) :
    entries (group ss name) = (leading ss name).foldl Entry.enter [] := by
  rw [entries, leading]
  cases hg : group ss name with
  | nil => rfl
  | cons first rest =>
    have hmem {s : Sample} (hs : s ∈ first :: rest) : s ∈ ss ∧ s.name = name :=
      mem_group.mp (hg ▸ hs)
    have hfirst : agrees first first = true := by simp [agrees]
    have hconf : conforming (first :: rest) = (first :: rest).filter (agrees first) := by
      rw [conforming, List.filter_cons_of_pos hfirst]
    rw [hconf, distinct_filter]
    intro s hs t ht hl
    obtain ⟨htype, hnames⟩ := h.schema s (hmem hs).1 t (hmem ht).1
      ((hmem hs).2.trans (hmem ht).2.symm) hl
    simp [agrees, htype, hnames]

/-- The family of a name shows the entries of the leading samples, with their label names. -/
theorem Regular.seriesOf_perm (h : Regular ss) (name : String) :
    ∃ labelNames, (∀ s ∈ leading ss name, s.descriptor.labelNames = labelNames) ∧
      (seriesOf (ofSamples ss) name).Perm
        (((leading ss name).foldl Entry.enter []).map (Entry.series labelNames)) := by
  rw [seriesOf, named_ofSamples, ← h.entries_group]
  cases hg : group ss name with
  | nil => exact ⟨[], by simp [leading, hg], by simp [ofGroup?, entries, conforming, distinct]⟩
  | cons first rest =>
    have hfirst : first ∈ ss := (mem_group.mp (hg ▸ List.mem_cons_self)).1
    refine ⟨first.descriptor.labelNames, fun s hs => ?_, ?_⟩
    · rw [leading, hg] at hs
      have hagrees := (List.mem_filter.mp hs).2
      simp only [agrees, Bool.and_eq_true, decide_eq_true_eq] at hagrees
      exact hagrees.2
    · rw [ofGroup?, if_pos (h.valid first hfirst)]
      split
      · rename_i he
        simp [he]
      · rename_i he
        rw [he]
        simp only [Option.toList_some, List.flatMap_cons, List.flatMap_nil, List.append_nil]
        exact List.mergeSort_perm _ _

/-- **Exactly when nothing is lost.** The family of a name shows each leading sample as a series of
its own, with its own labels and its own value, exactly if no two of them have the same key. -/
theorem Regular.seriesOf_perm_iff (h : Regular ss) (name : String) :
    (seriesOf (ofSamples ss) name).Perm ((leading ss name).map Sample.series) ↔
      ((leading ss name).map fun s => Entry.key s.labels).Nodup := by
  obtain ⟨labelNames, hnames, hperm⟩ := h.seriesOf_perm name
  have hcounter : ∀ s ∈ leading ss name, s.type ≠ .counter := fun s hs =>
    h.noCounter s (mem_group.mp (mem_of_mem_leading hs)).1
  obtain ⟨hnd, hmem⟩ := @Entry.keys_foldl _ [] hcounter List.nodup_nil
  constructor
  · intro hshown
    -- As many entries as samples, and their keys are all different.
    have hlen : (leading ss name).length ≤
        (Entry.keys ((leading ss name).foldl Entry.enter [])).length := by
      have := (hperm.symm.trans hshown).length_eq
      simp only [List.length_map] at this
      simp [Entry.keys, this]
    have hsub : Entry.keys ((leading ss name).foldl Entry.enter []) ⊆
        (leading ss name).map fun s => Entry.key s.labels := fun k hk => by
      rcases (hmem k).mp hk with hk | ⟨s, hs, rfl⟩
      · cases hk
      · exact List.mem_map_of_mem hs
    exact ((List.Nodup.subperm hnd hsub).perm_of_length_le (by simpa using hlen)).nodup hnd
  · intro hkeys
    rw [Entry.foldl_enter_of_nodup hcounter (by simpa [Entry.keys] using hkeys)] at hperm
    refine hperm.trans (List.Perm.of_eq ?_)
    simp only [List.nil_append, List.map_map]
    exact List.map_congr_left fun s hs => by simp [Sample.series, hnames s hs]

/-- If all samples of a name agree and have different keys, its family shows them all. -/
theorem Regular.seriesOf_perm_of_group (h : Regular ss) {name : String} {samples : List Sample}
    (hperm : (group ss name).Perm samples)
    (hagree : ∀ s ∈ samples, ∀ t ∈ samples, agrees s t = true)
    (hkeys : (samples.map fun s => Entry.key s.labels).Nodup) :
    (seriesOf (ofSamples ss) name).Perm (samples.map Sample.series) := by
  have hlabels : ((group ss name).map Sample.labels).Nodup := by
    refine List.Nodup.of_map Entry.key ?_
    rw [List.map_map]
    exact ((hperm.map _).nodup_iff).mpr hkeys
  have hleading : leading ss name = group ss name := by
    rw [leading]
    cases hg : group ss name with
    | nil => rfl
    | cons first rest =>
      rw [hg] at hperm hlabels
      simp only
      rw [distinct_of_nodup hlabels]
      exact List.filter_eq_self.mpr fun s hs =>
        hagree first (hperm.mem_iff.mp List.mem_cons_self) s (hperm.mem_iff.mp hs)
  have hshown := (h.seriesOf_perm_iff name).mpr
  rw [hleading] at hshown
  exact (hshown (((hperm.map _).nodup_iff).mpr hkeys)).trans (hperm.map _)

/-! ## Single samples -/

/-- The first sample of a name makes a family of one series if the others have its label values. -/
theorem ofGroup?_of_labels {t : Sample} {rest : List Sample}
    (hvalid : t.descriptor.isValid = true) (hcounter : t.type ≠ .counter)
    (hlabels : ∀ u ∈ rest, u.labels = t.labels) :
    ofGroup? (t :: rest) = some ⟨t.name, t.descriptor.help, t.type.shown, [t.series]⟩ := by
  have hdistinct : distinct (conforming (t :: rest)) = [t] := by
    rw [conforming, distinct]
    refine congrArg (t :: ·) (List.filter_eq_nil_iff.mpr fun u hu => ?_)
    have hmem := (List.mem_filter.mp (mem_of_mem_distinct hu)).1
    simpa using hlabels u hmem
  have hentries : entries (t :: rest) = [Entry.ofSample t] := by
    rw [entries, hdistinct]
    simp [Entry.enter_of_ne_counter hcounter, Entry.put, Entry.ofSample]
  simp [ofGroup?, hvalid, hentries, sortSeries, Sample.series]

/-- A sample that is the only one of its name makes a family of one series. -/
theorem ofGroup?_singleton {t : Sample} (hvalid : t.descriptor.isValid = true)
    (hcounter : t.type ≠ .counter) :
    ofGroup? [t] = some ⟨t.name, t.descriptor.help, t.type.shown, [t.series]⟩ :=
  ofGroup?_of_labels hvalid hcounter (by simp)

/-- Samples without labels make one family of each name, with one series: the first sample. -/
theorem mem_ofSamples_of_labels {ss : List Sample}
    (hvalid : ∀ t ∈ ss, t.descriptor.isValid = true) (hcounter : ∀ t ∈ ss, t.type ≠ .counter)
    (hlabels : ∀ t ∈ ss, t.labels = []) {f : Family} :
    f ∈ ofSamples ss ↔ ∃ t, ss.find? (fun u => u.name = t.name) = some t ∧
      f = ⟨t.name, t.descriptor.help, t.type.shown, [t.series]⟩ := by
  have hgroup {name : String} {t : Sample} {rest : List Sample}
      (h : group ss name = t :: rest) :
      ofGroup? (group ss name) = some ⟨t.name, t.descriptor.help, t.type.shown, [t.series]⟩ := by
    have hmem {u : Sample} (hu : u ∈ t :: rest) : u ∈ ss := (mem_group.mp (h ▸ hu)).1
    have ht := hmem List.mem_cons_self
    rw [h, ofGroup?_of_labels (hvalid t ht) (hcounter t ht) fun u hu => ?_]
    rw [hlabels u (hmem (List.mem_cons_of_mem t hu)), hlabels t ht]
  rw [ofSamples, List.mem_filterMap]
  constructor
  · rintro ⟨name, hname, hf⟩
    obtain ⟨u, hu, rfl⟩ := mem_names.mp hname
    obtain ⟨t, rest, hcons⟩ :=
      List.exists_cons_of_ne_nil (List.ne_nil_of_mem (mem_group.mpr ⟨hu, rfl⟩))
    have hsame : t.name = u.name := (mem_group.mp (hcons ▸ List.mem_cons_self)).2
    rw [hgroup hcons] at hf
    refine ⟨t, ?_, (Option.some.inj hf).symm⟩
    rw [← List.head?_filter, hsame]
    exact congrArg List.head? hcons
  · rintro ⟨t, hfind, rfl⟩
    rw [← List.head?_filter] at hfind
    obtain ⟨rest, hcons⟩ := List.head?_eq_some_iff.mp hfind
    exact ⟨t.name, mem_names.mpr ⟨t, (mem_group.mp (hcons ▸ List.mem_cons_self)).1, rfl⟩,
      hgroup hcons⟩

theorem ofSamples_singleton {t : Sample} (hvalid : t.descriptor.isValid = true)
    (hcounter : t.type ≠ .counter) :
    ofSamples [t] = [⟨t.name, t.descriptor.help, t.type.shown, [t.series]⟩] := by
  have hall : ((ofSamples [t]).filter fun f => f.name = t.name) = ofSamples [t] := by
    refine List.filter_eq_self.mpr fun f hf => ?_
    obtain ⟨u, hu, hname⟩ := exists_of_mem_ofSamples hf
    rw [List.mem_singleton.mp hu] at hname
    exact decide_eq_true hname.symm
  have hgroup : group [t] t.name = [t] := by simp [group]
  rw [← hall, named_ofSamples, hgroup, ofGroup?_singleton hvalid hcounter]
  rfl

/-- What a name shows with some labels, given all that it shows in some order. -/
theorem readings_perm {families : List Family} {name : String} {series : List Series}
    (h : (seriesOf families name).Perm series) (labels : List (String × String)) :
    (readings families name labels).Perm
      ((series.filter fun s => s.labels = labels).map Series.reading) :=
  (h.filter _).map _

end Family

end MysqlMetrics
