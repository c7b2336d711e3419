import MysqlMetrics.Proofs.Metric.Series

/-!
# Label values of a family

A series is shown with its labels in the order of their names, and the series of a family in the
order of their label values. Neither loses anything: entries with different keys have different
label values when they are shown, so a family shows no label values twice, and then the order in
which its series were entered can not be told any more.

* `Entry.labels_eq_of_values`: the label values shown tell the label values of the entry.
* `Family.nodup_values`: no two series of a family have the same label values.
* `Family.sortSeries_congr`, `Family.ofGroup?_perm`: the order of entry is of no account.
* `Family.Regular.wellFormed`: the families of regular samples can be shown and are unambiguous.
-/

namespace MysqlMetrics

namespace Descriptor

variable {d : Descriptor}

theorem name_ne_empty (h : d.isValid = true) : d.name ≠ "" := by
  intro hname
  simp only [isValid, Bool.and_eq_true] at h
  have hvalid := h.1.1.2
  rw [hname] at hvalid
  revert hvalid
  decide

theorem nodup_labelNames (h : d.isValid = true) : d.labelNames.Nodup := by
  simp only [isValid, Bool.and_eq_true, decide_eq_true_eq] at h
  exact h.2

end Descriptor

namespace Entry

private theorem eq_of_zip_perm {names a b : List String} (hn : names.Nodup)
    (ha : a.length = names.length) (hb : b.length = names.length)
    (h : (names.zip a).Perm (names.zip b)) : a = b := by
  induction names generalizing a b with
  | nil => rw [List.eq_nil_of_length_eq_zero ha, List.eq_nil_of_length_eq_zero hb]
  | cons name rest ih =>
    obtain ⟨x, a, rfl⟩ := List.exists_cons_of_length_eq_add_one ha
    obtain ⟨y, b, rfl⟩ := List.exists_cons_of_length_eq_add_one hb
    rw [List.nodup_cons] at hn
    -- The first name has one value on both sides, since it does not occur again.
    have hmem : (name, x) ∈ (name, y) :: rest.zip b := h.subset List.mem_cons_self
    have hxy : x = y := by
      rcases List.mem_cons.mp hmem with heq | hrest
      · exact congrArg Prod.snd heq
      · exact absurd (List.of_mem_zip hrest).1 hn.1
    subst hxy
    rw [ih hn.2 (Nat.succ.inj ha) (Nat.succ.inj hb) h.cons_inv]

/-- A series has its labels in the order of their names. -/
theorem names_series {names : List String} {e : Entry} (h : e.labels.length = names.length) :
    (e.series names).labels.map Prod.fst = names.mergeSort fun a b => decide (a ≤ b) := by
  have hnames : (names.zip e.labels).map Prod.fst = names := List.map_fst_zip (by omega)
  have hsort := List.map_mergeSort (r := fun a b : String × String => decide (a.1 ≤ b.1))
    (s := fun a b => decide (a ≤ b)) (f := Prod.fst) (l := names.zip e.labels) fun _ _ _ _ => rfl
  rw [hnames] at hsort
  exact hsort

theorem labels_eq_of_values {names : List String} (hn : names.Nodup) {e e' : Entry}
    (h : e.labels.length = names.length) (h' : e'.labels.length = names.length)
    (hvalues : (e.series names).values = (e'.series names).values) : e.labels = e'.labels := by
  have hlabels : (e.series names).labels = (e'.series names).labels :=
    calc (e.series names).labels
      _ = (names.mergeSort fun a b => decide (a ≤ b)).zip (e.series names).values :=
        List.zip_of_prod (names_series h) rfl
      _ = (names.mergeSort fun a b => decide (a ≤ b)).zip (e'.series names).values := by
        rw [hvalues]
      _ = (e'.series names).labels := (List.zip_of_prod (names_series h') rfl).symm
  refine eq_of_zip_perm hn h h' ?_
  exact (List.mergeSort_perm _ _).symm.trans ((List.Perm.of_eq hlabels).trans
    (List.mergeSort_perm _ _))

theorem labels_of_mem_put {labels : List String} {change : Option Float → Float}
    {es : List Entry} {e : Entry} (h : e ∈ put labels change es) :
    e.labels = labels ∨ ∃ e' ∈ es, e.labels = e'.labels := by
  induction es with
  | nil =>
    rw [put, List.mem_singleton] at h
    exact .inl (congrArg Entry.labels h)
  | cons e' rest ih =>
    rw [put] at h
    split at h
    · rcases List.mem_cons.mp h with rfl | h
      · exact .inr ⟨e', List.mem_cons_self, rfl⟩
      · exact .inr ⟨e, List.mem_cons_of_mem e' h, rfl⟩
    · rcases List.mem_cons.mp h with rfl | h
      · exact .inr ⟨e, List.mem_cons_self, rfl⟩
      · rcases ih h with heq | ⟨k, hk, heq⟩
        · exact .inl heq
        · exact .inr ⟨k, List.mem_cons_of_mem e' hk, heq⟩

/-- What holds of the label values of all samples holds of the entries that they make. -/
theorem forall_labels_foldl {P : List String → Prop} {ss : List Sample} {es : List Entry}
    (hss : ∀ s ∈ ss, P s.labels) (hes : ∀ e ∈ es, P e.labels) :
    ∀ e ∈ ss.foldl enter es, P e.labels := by
  induction ss generalizing es with
  | nil => exact hes
  | cons s rest ih =>
    have hput (change : Option Float → Float) : ∀ e ∈ put s.labels change es, P e.labels := by
      intro e he
      rcases labels_of_mem_put he with heq | ⟨e', he', heq⟩
      · exact heq ▸ hss s List.mem_cons_self
      · exact heq ▸ hes e' he'
    refine ih (fun t ht => hss t (List.mem_cons_of_mem s ht)) ?_
    unfold enter
    split
    · split
      · exact hput _
      · exact hes
    · exact hput _
    · exact hput _

end Entry

namespace Family

/-! ## Different label values -/

theorem sortSeries_perm (series : List Series) : (sortSeries series).Perm series :=
  List.mergeSort_perm _ _

/-- Entries with keys of their own are shown with label values of their own. -/
theorem nodup_values {names : List String} (hn : names.Nodup) {es : List Entry}
    (hlength : ∀ e ∈ es, e.labels.length = names.length) (hkeys : (Entry.keys es).Nodup) :
    ((es.map (Entry.series names)).map Series.values).Nodup := by
  rw [List.map_map]
  refine List.Nodup.map_on ?_ (List.Nodup.of_map _ hkeys)
  intro e he e' he' hvalues
  have hlabels := Entry.labels_eq_of_values hn (hlength e he) (hlength e' he') hvalues
  exact List.inj_on_of_nodup_map hkeys he he' (congrArg Entry.key hlabels)

/-- Series with label values of their own are sorted in one way only. -/
theorem sortSeries_congr {series series' : List Series} (h : series.Perm series')
    (hvalues : (series.map Series.values).Nodup) : sortSeries series = sortSeries series' := by
  -- In the words of the definition: no series has smaller label values than one before it.
  have hsorted (l : List Series) :
      (sortSeries l).Pairwise fun a b => ¬ b.values < a.values := by
    have hle := @List.pairwise_mergeSort Series (fun a b => !decide (b.values < a.values))
      (fun a b c hab hbc => by
        simp only [Bool.not_eq_true', decide_eq_false_iff_not] at *
        exact List.le_trans hab hbc)
      (fun a b => by
        simp only [Bool.or_eq_true, Bool.not_eq_true', decide_eq_false_iff_not]
        exact List.le_total a.values b.values) l
    refine hle.imp fun hab => ?_
    simpa only [Bool.not_eq_true', decide_eq_false_iff_not] using hab
  have hperm : (sortSeries series).Perm (sortSeries series') :=
    (sortSeries_perm series).trans (h.trans (sortSeries_perm series').symm)
  refine List.Perm.eq_of_pairwise ?_ (hsorted series) (hsorted series') hperm
  intro a b ha hb hab hba
  have ha : a ∈ series := (sortSeries_perm series).mem_iff.mp ha
  have hb : b ∈ series := h.mem_iff.mpr ((sortSeries_perm series').mem_iff.mp hb)
  exact List.inj_on_of_nodup_map hvalues ha hb (List.le_antisymm hab hba)

/-- A change that leaves the labels alone may be made before or after sorting. -/
theorem map_sortSeries (change : Series → Series) (h : ∀ s, (change s).labels = s.labels)
    (series : List Series) : (sortSeries series).map change = sortSeries (series.map change) := by
  have hvalues (s : Series) : (change s).values = s.values := congrArg (List.map Prod.snd) (h s)
  refine List.map_mergeSort fun a _ b _ => ?_
  show (!decide (b.values < a.values)) = !decide ((change b).values < (change a).values)
  rw [hvalues, hvalues]

/-! ## Samples of one descriptor -/

section Same

variable {d : Descriptor} {type : MetricType} {ss : List Sample}

theorem map_series_of_same (hss : ∀ s ∈ ss, s.descriptor = d) :
    (ss.map Entry.ofSample).map (Entry.series d.labelNames) = ss.map Sample.series := by
  rw [List.map_map]
  refine List.map_congr_left fun s hs => ?_
  rw [Sample.series, hss s hs]
  rfl

/-- Samples of one descriptor and type with keys of their own make a family of them all. -/
theorem ofGroup?_of_same (hd : d.isValid = true) (htype : type ≠ .counter) (hne : ss ≠ [])
    (hss : ∀ s ∈ ss, s.descriptor = d ∧ s.type = type)
    (hkeys : (ss.map fun s => Entry.key s.labels).Nodup) :
    ofGroup? ss = some ⟨d.name, d.help, type.shown, sortSeries (ss.map Sample.series)⟩ := by
  obtain ⟨first, rest, rfl⟩ := List.exists_cons_of_ne_nil hne
  obtain ⟨hfirst, htypeFirst⟩ := hss first List.mem_cons_self
  have hagrees : ∀ s ∈ rest, agrees first s = true := by
    intro s hs
    obtain ⟨hs, hst⟩ := hss s (List.mem_cons_of_mem first hs)
    simp [agrees, hs, hst, hfirst, htypeFirst]
  have hlabels : ((first :: rest).map Sample.labels).Nodup :=
    List.Nodup.of_map Entry.key (by rwa [List.map_map])
  have hentries : entries (first :: rest) = (first :: rest).map Entry.ofSample := by
    rw [entries, conforming, List.filter_eq_self.mpr hagrees, distinct_of_nodup hlabels]
    have hcounter : ∀ s ∈ first :: rest, s.type ≠ .counter := by
      intro s hs
      rw [(hss s hs).2]
      exact htype
    exact Entry.foldl_enter_of_nodup hcounter (by simpa [Entry.keys] using hkeys)
  have hseries := map_series_of_same fun s hs => (hss s hs).1
  rw [ofGroup?, hentries, hfirst, if_pos hd, ← hseries, Sample.name, hfirst, htypeFirst]
  rfl

theorem nodup_values_of_same (hd : d.isValid = true) (hss : ∀ s ∈ ss, s.descriptor = d)
    (hcomplete : ∀ s ∈ ss, s.isComplete = true)
    (hkeys : (ss.map fun s => Entry.key s.labels).Nodup) :
    ((ss.map Sample.series).map Series.values).Nodup := by
  have hlength : ∀ e ∈ ss.map Entry.ofSample, e.labels.length = d.labelNames.length := by
    intro e he
    obtain ⟨s, hs, rfl⟩ := List.mem_map.mp he
    have := of_decide_eq_true (hcomplete s hs)
    rwa [hss s hs] at this
  have hentries : Entry.keys (ss.map Entry.ofSample) = ss.map fun s => Entry.key s.labels := by
    rw [Entry.keys, List.map_map]
    rfl
  rw [← map_series_of_same hss]
  exact nodup_values (Descriptor.nodup_labelNames hd) hlength (hentries ▸ hkeys)

/-- The order of such samples does not show in their family. -/
theorem ofGroup?_perm {ss' : List Sample} (h : ss.Perm ss') (hd : d.isValid = true)
    (htype : type ≠ .counter) (hss : ∀ s ∈ ss, s.descriptor = d ∧ s.type = type)
    (hcomplete : ∀ s ∈ ss, s.isComplete = true)
    (hkeys : (ss.map fun s => Entry.key s.labels).Nodup) : ofGroup? ss = ofGroup? ss' := by
  by_cases hne : ss = []
  · subst hne
    rw [h.nil_eq]
  · have hne' : ss' ≠ [] := fun hnil => hne (h.trans (.of_eq hnil)).eq_nil
    have hss' : ∀ s ∈ ss', s.descriptor = d ∧ s.type = type := fun s hs =>
      hss s (h.mem_iff.mpr hs)
    have hsort : sortSeries (ss.map Sample.series) = sortSeries (ss'.map Sample.series) :=
      sortSeries_congr (h.map _)
        (nodup_values_of_same hd (fun s hs => (hss s hs).1) hcomplete hkeys)
    rw [ofGroup?_of_same hd htype hne hss hkeys, hsort,
      ofGroup?_of_same hd htype hne' hss' ((h.map _).nodup_iff.mp hkeys)]

end Same

/-! ## Families that can be shown -/

/-- The family has a name and series, and no two of its series have the same label values. -/
structure WellFormed (f : Family) : Prop where
  named : f.name ≠ ""
  shown : f.series ≠ []
  distinct : (f.series.map Series.values).Nodup

theorem nodup_names (ss : List Sample) : ((ofSamples ss).map name).Nodup := by
  refine List.pairwise_map.mpr (List.Pairwise.filterMap _ ?_ (names_sorted ss))
  intro a b hab f hf g hg heq
  rw [name_of_ofGroup? (fun s hs => (mem_group.mp hs).2) hf,
    name_of_ofGroup? (fun s hs => (mem_group.mp hs).2) hg] at heq
  subst heq
  exact String.lt_irrefl a hab

/-- The samples that count have a value for each label of their family. -/
theorem length_leading {ss : List Sample} (hcomplete : ∀ s ∈ ss, s.isComplete = true)
    {name : String} {first : Sample} {rest : List Sample} (hg : group ss name = first :: rest)
    {s : Sample} (hs : s ∈ leading ss name) :
    s.labels.length = first.descriptor.labelNames.length := by
  have hmem : s ∈ ss := (mem_group.mp (mem_of_mem_leading hs)).1
  rw [leading, hg] at hs
  have hagrees := (List.mem_filter.mp hs).2
  simp only [agrees, Bool.and_eq_true, decide_eq_true_eq] at hagrees
  rw [of_decide_eq_true (hcomplete s hmem), hagrees.2]

/-- Samples that are complete and regular make families that are well formed. -/
theorem Regular.wellFormed {ss : List Sample} (h : Regular ss)
    (hcomplete : ∀ s ∈ ss, s.isComplete = true) {f : Family} (hf : f ∈ ofSamples ss) :
    f.WellFormed := by
  obtain ⟨name, -, hf⟩ := List.mem_filterMap.mp hf
  cases hg : group ss name with
  | nil =>
    rw [hg] at hf
    cases hf
  | cons first rest =>
    have hvalid := h.valid first (mem_group.mp (hg ▸ List.mem_cons_self)).1
    have hlength :=
      @Entry.forall_labels_foldl (fun labels => labels.length = first.descriptor.labelNames.length)
        (leading ss name) [] (fun _ hs => length_leading hcomplete hg hs) (by simp)
    have hcounter : ∀ s ∈ leading ss name, s.type ≠ .counter := fun s hs =>
      h.noCounter s (mem_group.mp (mem_of_mem_leading hs)).1
    have hkeys := (@Entry.keys_foldl _ [] hcounter List.nodup_nil).1
    rw [← h.entries_group name, hg] at hlength hkeys
    rw [hg, ofGroup?, if_pos hvalid] at hf
    split at hf
    · cases hf
    · rename_i e es hes
      cases hf
      rw [hes] at hlength hkeys
      refine ⟨Descriptor.name_ne_empty hvalid, ?_, ?_⟩
      · intro hnil
        have hperm := sortSeries_perm ((e :: es).map (Entry.series first.descriptor.labelNames))
        rw [show sortSeries _ = [] from hnil] at hperm
        cases hperm.nil_eq
      · refine (((sortSeries_perm _).map _).nodup_iff).mpr ?_
        exact nodup_values (Descriptor.nodup_labelNames hvalid) hlength hkeys

end Family

end MysqlMetrics
