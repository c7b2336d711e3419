import MysqlMetrics.Proofs.Decimal.Arithmetic
import MysqlMetrics.Proofs.Metric.Labels

/-!
# What families mean

Whether a sample counts is decided by the samples before it: it has to agree with the first one of
its name, and to be the first of those that agree with its label values. What counts is entered into
the family of its name, in the order in which it was sent; the other samples leave no trace.

* `Counts`, `counting`: the samples that count.
* `distinct_conforming_group`: the samples of a name that count, found one after another.
* `ofSamples_of_not_counts`: a sample that does not count may be left out.
* `Represents`: what a family shows of the samples.
* `ofSamples_meaning`: the families of a scrape.
-/

namespace MysqlMetrics

namespace Sample

/-- A counter takes no value that is negative or not a number. -/
def IsRejected (s : Sample) : Prop := s.type = .counter ∧ (s.value < 0 ∨ s.value.isNaN = true)

instance : DecidablePred IsRejected := fun s =>
  inferInstanceAs (Decidable (s.type = .counter ∧ (s.value < 0 ∨ s.value.isNaN = true)))

/-- A sample as its family shows it: a counter counts from zero, and so a negative zero is none. -/
def shown (s : Sample) : Sample :=
  if s.type = .counter ∧ s.value = -0 then { s with value := 0 } else s

theorem labels_shown (s : Sample) : s.shown.labels = s.labels := by
  unfold shown
  split <;> rfl

theorem descriptor_shown (s : Sample) : s.shown.descriptor = s.descriptor := by
  unfold shown
  split <;> rfl

theorem value_shown_of_ne_counter {s : Sample} (h : s.type ≠ .counter) :
    s.shown.value = s.value := by
  rw [shown, if_neg fun hs => h hs.1]

theorem value_shown_of_counter {s : Sample} (h : s.type = .counter) :
    s.shown.value = 0 + s.value := by
  unfold shown
  split
  · rename_i hzero
    rw [hzero.2, Decimal.zero_add_neg_zero]
  · rename_i hzero
    exact (Decimal.zero_add_eq fun hvalue => hzero ⟨h, hvalue⟩).symm

end Sample

/-! ## Entering samples -/

namespace Entry

variable {s : Sample} {ss : List Sample} {es : List Entry}

theorem enter_of_isRejected (h : s.IsRejected) : enter es s = es := by
  obtain ⟨htype, hvalue⟩ := h
  simp only [enter, htype, if_neg (Decimal.not_nonneg_iff.mpr hvalue)]

/-- Any other sample is put under its key, and alone there it is shown as it is. -/
theorem exists_enter_eq_put (h : ¬s.IsRejected) :
    ∃ change, (∀ es, enter es s = put s.labels change es) ∧ change none = s.shown.value := by
  by_cases htype : s.type = .counter
  · have hvalue : 0 ≤ s.value := by
      by_contra hnot
      exact h ⟨htype, Decimal.not_nonneg_iff.mp hnot⟩
    refine ⟨fun old => old.getD 0 + s.value, fun es => ?_,
      (Sample.value_shown_of_counter htype).symm⟩
    simp only [enter, htype, if_pos hvalue]
  · exact ⟨fun _ => s.value, fun es => enter_of_ne_counter htype,
      (Sample.value_shown_of_ne_counter htype).symm⟩

theorem put_ne_nil (labels : List String) (change : Option Float → Float) (es : List Entry) :
    put labels change es ≠ [] := by
  cases es with
  | nil => exact List.cons_ne_nil _ _
  | cons e rest =>
    rw [put]
    split <;> exact List.cons_ne_nil _ _

/-- Nothing is entered exactly if every sample is rejected. -/
theorem foldl_enter_eq_nil_iff :
    ss.foldl enter es = [] ↔ es = [] ∧ ∀ s ∈ ss, s.IsRejected := by
  induction ss generalizing es with
  | nil => simp
  | cons s rest ih =>
    rw [List.foldl_cons, ih, List.forall_mem_cons]
    by_cases h : s.IsRejected
    · simp [enter_of_isRejected h, h]
    · obtain ⟨change, henter, -⟩ := exists_enter_eq_put h
      simp [henter, put_ne_nil, h]

theorem nodup_keys_foldl_enter (h : (keys es).Nodup) : (keys (ss.foldl enter es)).Nodup := by
  induction ss generalizing es with
  | nil => exact h
  | cons s rest ih =>
    refine ih ?_
    by_cases hs : s.IsRejected
    · rwa [enter_of_isRejected hs]
    · obtain ⟨change, henter, -⟩ := exists_enter_eq_put hs
      rw [henter]
      exact nodup_keys_put h

/-- Samples with keys of their own become an entry each, unless they are rejected. -/
theorem foldl_enter_of_nodup_keys (h : (keys es ++ ss.map fun s => key s.labels).Nodup) :
    ss.foldl enter es =
      es ++ (ss.filter fun s => ¬s.IsRejected).map fun s => ofSample s.shown := by
  induction ss generalizing es with
  | nil => simp
  | cons s rest ih =>
    have hs : key s.labels ∉ keys es := by
      intro hs
      exact (List.nodup_append.mp h).2.2 _ hs _ (by simp) rfl
    rw [List.foldl_cons]
    by_cases hrejected : s.IsRejected
    · have hrest : (keys es ++ rest.map fun s => key s.labels).Nodup := by
        refine h.sublist ?_
        rw [List.map_cons]
        exact (List.sublist_cons_self _ _).append_left _
      rw [enter_of_isRejected hrejected, ih hrest, List.filter_cons_of_neg (by simpa)]
    · obtain ⟨change, henter, hchange⟩ := exists_enter_eq_put hrejected
      have hentry : (⟨s.labels, change none⟩ : Entry) = ofSample s.shown := by
        rw [ofSample, Sample.labels_shown, hchange]
      have hrest :
          (keys (es ++ [ofSample s.shown]) ++ rest.map fun s => key s.labels).Nodup := by
        simpa [keys, ofSample, Sample.labels_shown] using h
      rw [henter, put_of_not_mem hs, hentry, ih hrest, List.filter_cons_of_pos (by simpa)]
      simp

end Entry

namespace Family

/-! ## The samples that count -/

/-- `s` counts after the samples in `before`: it agrees with the first sample of its name, and none
that agrees has its label values. -/
def Counts (before : List Sample) (s : Sample) : Prop :=
  ∀ first ∈ (group before s.name).head?, agrees first s = true ∧
    ∀ t ∈ group before s.name, agrees first t = true → t.labels ≠ s.labels

instance (before : List Sample) (s : Sample) : Decidable (Counts before s) :=
  inferInstanceAs (Decidable (∀ first ∈ (group before s.name).head?, agrees first s = true ∧
    ∀ t ∈ group before s.name, agrees first t = true → t.labels ≠ s.labels))

/-- The samples that count of those sent after the samples in `before`. -/
def countingFrom (before : List Sample) : List Sample → List Sample
  | [] => []
  | s :: rest =>
    if Counts before s then s :: countingFrom (before ++ [s]) rest
    else countingFrom (before ++ [s]) rest

/-- The samples of a name that count. -/
def counting (ss : List Sample) (name : String) : List Sample := group (countingFrom [] ss) name

theorem countingFrom_append (before xs ys : List Sample) :
    countingFrom before (xs ++ ys) = countingFrom before xs ++ countingFrom (before ++ xs) ys := by
  induction xs generalizing before with
  | nil => simp [countingFrom]
  | cons s rest ih =>
    rw [List.cons_append, countingFrom, countingFrom, ih, List.append_assoc]
    split
    · rfl
    · rfl

theorem counting_concat (ss : List Sample) (s : Sample) (name : String) :
    counting (ss ++ [s]) name =
      counting ss name ++ if s.name = name ∧ Counts ss s then [s] else [] := by
  rw [counting, countingFrom_append, group, List.filter_append, counting, group]
  congr 1
  by_cases hcounts : Counts ss s
  · by_cases hname : s.name = name <;> simp [countingFrom, hcounts, hname]
  · simp [countingFrom, hcounts]

/-- One more sample is one of the distinct ones if it has label values of its own. -/
theorem distinct_concat (ss : List Sample) (s : Sample) :
    distinct (ss ++ [s]) =
      distinct ss ++ if ∀ t ∈ ss, t.labels ≠ s.labels then [s] else [] := by
  induction ss with
  | nil => simp [distinct]
  | cons t rest ih =>
    rw [List.cons_append, distinct, ih, List.filter_append, distinct, List.cons_append]
    congr 2
    by_cases hrest : ∀ u ∈ rest, u.labels ≠ s.labels
    · by_cases ht : t.labels = s.labels
      · simp [ht]
      · simp [ht, Ne.symm ht]
    · have hcons : ¬∀ u ∈ t :: rest, u.labels ≠ s.labels := fun h =>
        hrest fun u hu => h u (List.mem_cons_of_mem t hu)
      simp only [if_neg hrest, if_neg hcons, List.filter_nil]

theorem group_concat (ss : List Sample) (s : Sample) (name : String) :
    group (ss ++ [s]) name = group ss name ++ if s.name = name then [s] else [] := by
  rw [group, List.filter_append]
  by_cases h : s.name = name <;> simp [group, h]

/-- **One sample after another.** The samples of a name that count are those that agree with the
first one, without repetitions: each sample is judged by those before it. -/
theorem distinct_conforming_group (ss : List Sample) (name : String) :
    distinct (conforming (group ss name)) = counting ss name := by
  induction ss using List.reverseRecOn with
  | nil => rfl
  | append_singleton ss s ih =>
    rw [counting_concat, ← ih, group_concat]
    by_cases hname : s.name = name
    · subst hname
      rw [if_pos rfl]
      cases hgroup : group ss s.name with
      | nil => simp [conforming, distinct, Counts, hgroup]
      | cons first rest =>
        have hself : agrees first first = true := by simp [agrees]
        have hconforming (others : List Sample) :
            conforming (first :: others) = (first :: others).filter (agrees first) := by
          rw [conforming, List.filter_cons_of_pos hself]
        rw [List.cons_append, hconforming, hconforming, ← List.cons_append, List.filter_append]
        by_cases hagrees : agrees first s = true
        · have hcounts : Counts ss s ↔
              ∀ t ∈ (first :: rest).filter (agrees first), t.labels ≠ s.labels := by
            simp [Counts, hgroup, hagrees]
          rw [List.filter_cons_of_pos hagrees, List.filter_nil, distinct_concat]
          simp only [hcounts, true_and]
        · have hcounts : ¬Counts ss s := fun h => hagrees (h first (by simp [hgroup])).1
          simp [hagrees, hcounts]
    · simp [hname]

theorem entries_group (ss : List Sample) (name : String) :
    entries (group ss name) = (counting ss name).foldl Entry.enter [] := by
  rw [entries, distinct_conforming_group]

/-- A sample that counts agrees with the first one of its name. -/
theorem agrees_of_mem_counting {ss : List Sample} {name : String} {first s : Sample}
    (hfirst : (group ss name).head? = some first) (h : s ∈ counting ss name) :
    agrees first s = true := by
  rw [← distinct_conforming_group] at h
  have hmem := mem_of_mem_distinct h
  cases hgroup : group ss name with
  | nil => simp [hgroup] at hfirst
  | cons t rest =>
    rw [hgroup] at hfirst hmem
    cases hfirst
    rcases List.mem_cons.mp hmem with rfl | hrest
    · simp [agrees]
    · exact (List.mem_filter.mp hrest).2

theorem mem_of_mem_counting {ss : List Sample} {name : String} {s : Sample}
    (h : s ∈ counting ss name) : s ∈ ss ∧ s.name = name := by
  rw [← distinct_conforming_group] at h
  have hmem := mem_of_mem_distinct h
  refine mem_group.mp ?_
  cases hgroup : group ss name with
  | nil =>
    rw [hgroup] at hmem
    exact hmem
  | cons t rest =>
    rw [hgroup, conforming] at hmem
    rcases List.mem_cons.mp hmem with rfl | hrest
    · exact List.mem_cons_self
    · exact List.mem_cons_of_mem t (List.mem_filter.mp hrest).1

/-! ## Samples that do not count -/

section Dropped

variable {before : List Sample} {t : Sample} (ht : ¬Counts before t)
include ht

theorem group_ne_nil_of_not_counts : group before t.name ≠ [] := by
  intro hnil
  refine ht fun first hfirst => ?_
  rw [hnil] at hfirst
  cases hfirst

/-- If it agrees with the first sample of its name, then an earlier one has its label values. -/
theorem exists_of_not_counts {first : Sample} (hfirst : (group before t.name).head? = some first)
    (hagrees : agrees first t = true) :
    ∃ u ∈ group before t.name, agrees first u = true ∧ u.labels = t.labels := by
  by_contra hnone
  refine ht fun first' hfirst' => ?_
  rw [hfirst] at hfirst'
  cases hfirst'
  exact ⟨hagrees, fun u hu hagreesU hlabels => hnone ⟨u, hu, hagreesU, hlabels⟩⟩

theorem head?_group_append (later : List Sample) :
    (group (before ++ later) t.name).head? = (group before t.name).head? := by
  obtain ⟨first, rest, hgroup⟩ := List.exists_cons_of_ne_nil (group_ne_nil_of_not_counts ht)
  have happend : group (before ++ later) t.name = group before t.name ++ group later t.name :=
    List.filter_append _ _
  rw [happend, hgroup]
  rfl

theorem head?_group_insert (after : List Sample) (name : String) :
    (group (before ++ t :: after) name).head? = (group (before ++ after) name).head? := by
  by_cases hname : t.name = name
  · subst hname
    rw [head?_group_append ht, head?_group_append ht]
  · simp [group, hname]

/-- What does not count is of no account to what comes after it. -/
theorem counts_insert (later : List Sample) (s : Sample) :
    Counts (before ++ t :: later) s ↔ Counts (before ++ later) s := by
  unfold Counts
  rw [head?_group_insert ht later s.name]
  refine forall₂_congr fun first hfirst => and_congr_right fun _ => ?_
  constructor
  · intro h u hu
    refine h u (mem_group.mpr ⟨?_, (mem_group.mp hu).2⟩)
    have hmem := (mem_group.mp hu).1
    simp only [List.mem_append, List.mem_cons] at hmem ⊢
    tauto
  · intro h u hu hagrees
    obtain ⟨hmem, hname⟩ := mem_group.mp hu
    by_cases hut : u = t
    · subst hut
      rw [← hname, head?_group_append ht] at hfirst
      obtain ⟨v, hv, hagreesV, hlabels⟩ := exists_of_not_counts ht hfirst hagrees
      obtain ⟨hmemV, hnameV⟩ := mem_group.mp hv
      rw [← hlabels]
      exact h v (mem_group.mpr ⟨List.mem_append_left _ hmemV, hnameV.trans hname⟩) hagreesV
    · refine h u (mem_group.mpr ⟨?_, hname⟩) hagrees
      simp only [List.mem_append, List.mem_cons] at hmem ⊢
      tauto

theorem countingFrom_insert (later after : List Sample) :
    countingFrom (before ++ t :: later) after = countingFrom (before ++ later) after := by
  induction after generalizing later with
  | nil => rfl
  | cons s rest ih =>
    have hrest := ih (later ++ [s])
    rw [countingFrom, countingFrom]
    simp only [counts_insert ht, List.append_assoc, List.cons_append, hrest]

theorem counting_insert (after : List Sample) (name : String) :
    counting (before ++ t :: after) name = counting (before ++ after) name := by
  have hfrom : countingFrom before (t :: after) = countingFrom before after := by
    have hinsert := countingFrom_insert ht [] after
    rw [List.append_nil] at hinsert
    rw [countingFrom, if_neg ht, hinsert]
  rw [counting, counting, countingFrom_append, countingFrom_append, List.nil_append, hfrom]

end Dropped

/-- The family of a name depends on the first sample of the name and on those that count. -/
theorem ofGroup?_congr {ss ss' : List Sample} {name : String}
    (hfirst : (group ss name).head? = (group ss' name).head?)
    (hcounting : counting ss name = counting ss' name) :
    ofGroup? (group ss name) = ofGroup? (group ss' name) := by
  have hentries : entries (group ss name) = entries (group ss' name) := by
    rw [entries_group, entries_group, hcounting]
  cases hgroup : group ss name with
  | nil =>
    have hnil : group ss' name = [] := by
      rw [hgroup] at hfirst
      exact List.head?_eq_none_iff.mp hfirst.symm
    rw [hnil]
  | cons first rest =>
    cases hgroup' : group ss' name with
    | nil =>
      rw [hgroup, hgroup'] at hfirst
      cases hfirst
    | cons first' rest' =>
      rw [hgroup, hgroup'] at hfirst hentries
      cases hfirst
      rw [ofGroup?, ofGroup?, hentries]

/-- A sample that does not count leaves no trace. -/
theorem ofSamples_of_not_counts {before : List Sample} {t : Sample} (ht : ¬Counts before t)
    (after : List Sample) : ofSamples (before ++ t :: after) = ofSamples (before ++ after) := by
  refine ofSamples_congr (fun name => ?_) fun name =>
    ofGroup?_congr (head?_group_insert ht after name) (counting_insert ht after name)
  constructor
  · rintro ⟨s, hs, rfl⟩
    rcases List.mem_append.mp hs with hs | hs
    · exact ⟨s, List.mem_append_left _ hs, rfl⟩
    rcases List.mem_cons.mp hs with rfl | hs
    · obtain ⟨first, hfirst⟩ := List.exists_mem_of_ne_nil _ (group_ne_nil_of_not_counts ht)
      exact ⟨first, List.mem_append_left _ (mem_group.mp hfirst).1, (mem_group.mp hfirst).2⟩
    · exact ⟨s, List.mem_append_right _ hs, rfl⟩
  · rintro ⟨s, hs, rfl⟩
    refine ⟨s, ?_, rfl⟩
    simp only [List.mem_append, List.mem_cons] at hs ⊢
    tauto

/-! ## The families -/

theorem ofGroup?_eq_some {samples : List Sample} {f : Family} :
    ofGroup? samples = some f ↔ ∃ first, samples.head? = some first ∧
      first.descriptor.isValid = true ∧ entries samples ≠ [] ∧
        f = ⟨first.name, first.descriptor.help, first.type.shown,
          sortSeries ((entries samples).map (Entry.series first.descriptor.labelNames))⟩ := by
  cases samples with
  | nil => simp [ofGroup?]
  | cons first rest =>
    rw [ofGroup?]
    constructor
    · intro h
      split at h
      · rename_i hvalid
        split at h
        · cases h
        · rename_i e es hentries
          cases h
          rw [hentries]
          exact ⟨first, rfl, hvalid, List.cons_ne_nil _ _, rfl⟩
      · cases h
    · rintro ⟨first', hfirst, hvalid, hne, rfl⟩
      cases hfirst
      obtain ⟨e, es, hentries⟩ := List.exists_cons_of_ne_nil hne
      rw [if_pos hvalid, hentries]

section Entries

variable {ss : List Sample} {name : String} {first : Sample}

theorem labelNames_of_mem_counting (hfirst : (group ss name).head? = some first) {s : Sample}
    (hs : s ∈ counting ss name) : s.descriptor.labelNames = first.descriptor.labelNames := by
  have hagrees := agrees_of_mem_counting hfirst hs
  simp only [agrees, Bool.and_eq_true, decide_eq_true_eq] at hagrees
  exact hagrees.2

/-- Every entry has the label values of a sample that counts. -/
theorem exists_of_mem_entries {e : Entry} (he : e ∈ entries (group ss name)) :
    ∃ s ∈ counting ss name, s.labels = e.labels := by
  rw [entries_group] at he
  exact @Entry.forall_labels_foldl (fun labels => ∃ s ∈ counting ss name, s.labels = labels) _ []
    (fun s hs => ⟨s, hs, rfl⟩) (by simp) e he

theorem length_of_mem_entries (hcomplete : ∀ s ∈ ss, s.isComplete = true)
    (hfirst : (group ss name).head? = some first) {e : Entry}
    (he : e ∈ entries (group ss name)) :
    e.labels.length = first.descriptor.labelNames.length := by
  obtain ⟨s, hs, hlabels⟩ := exists_of_mem_entries he
  rw [← hlabels, ← labelNames_of_mem_counting hfirst hs]
  exact of_decide_eq_true (hcomplete s (mem_of_mem_counting hs).1)

theorem nodup_keys_entries (ss : List Sample) (name : String) :
    (Entry.keys (entries (group ss name))).Nodup := by
  rw [entries_group]
  exact Entry.nodup_keys_foldl_enter List.nodup_nil

/-- Samples that count and have keys of their own are the entries, unless they are rejected. -/
theorem entries_of_nodup_keys
    (hkeys : ((counting ss name).map fun s => Entry.key s.labels).Nodup) :
    entries (group ss name) =
      ((counting ss name).filter fun s => ¬s.IsRejected).map fun s => Entry.ofSample s.shown := by
  have hall : (Entry.keys [] ++ (counting ss name).map fun s => Entry.key s.labels).Nodup := hkeys
  rw [entries_group, Entry.foldl_enter_of_nodup_keys hall, List.nil_append]

end Entries

/-- What a family shows of some samples, of which `first` is the first one of its name. Its series
are those of the samples that count if these differ in their label values written one after another;
in any case no two series have the same label values, and all of them were sent. -/
structure Represents (ss : List Sample) (first : Sample) (f : Family) : Prop where
  first_eq : (group ss f.name).head? = some first
  help : f.help = first.descriptor.help
  type : f.type = first.type.shown
  labelNames : ∀ series ∈ f.series,
    (series.labels.map Prod.fst).Perm first.descriptor.labelNames
  distinct : (f.series.map Series.values).Nodup
  sent : ∀ series ∈ f.series, ∃ s ∈ ss, s.name = f.name ∧ series.labels = s.series.labels
  counted : ((counting ss f.name).map fun s => Entry.key s.labels).Nodup →
    f.series.Perm (((counting ss f.name).filter fun s => ¬s.IsRejected).map fun s => s.shown.series)

theorem represents_of_ofGroup? {ss : List Sample} (hcomplete : ∀ s ∈ ss, s.isComplete = true)
    {name : String} {f : Family} (h : ofGroup? (group ss name) = some f) :
    ∃ first, Represents ss first f := by
  obtain ⟨first, hfirst, hvalid, -, hf⟩ := ofGroup?_eq_some.mp h
  have hname : f.name = name := name_of_ofGroup? (fun s hs => (mem_group.mp hs).2) h
  subst hname
  have hseries : f.series =
      sortSeries ((entries (group ss f.name)).map (Entry.series first.descriptor.labelNames)) :=
    congrArg series hf
  have hlength : ∀ e ∈ entries (group ss f.name),
      e.labels.length = first.descriptor.labelNames.length :=
    fun e he => length_of_mem_entries hcomplete hfirst he
  have hmem (series : Series) (hs : series ∈ f.series) :
      ∃ e ∈ entries (group ss f.name), e.series first.descriptor.labelNames = series := by
    rw [hseries] at hs
    exact List.mem_map.mp ((sortSeries_perm _).mem_iff.mp hs)
  refine ⟨first, hfirst, congrArg help hf, congrArg type hf, ?_, ?_, ?_, ?_⟩
  · intro series hs
    obtain ⟨e, he, rfl⟩ := hmem series hs
    rw [Entry.names_series (hlength e he)]
    exact List.mergeSort_perm _ _
  · rw [hseries]
    refine ((sortSeries_perm _).map _).nodup_iff.mpr ?_
    exact nodup_values (Descriptor.nodup_labelNames hvalid) hlength (nodup_keys_entries ss f.name)
  · intro series hs
    obtain ⟨e, he, rfl⟩ := hmem series hs
    obtain ⟨s, hs, hlabels⟩ := exists_of_mem_entries he
    obtain ⟨hsent, hname⟩ := mem_of_mem_counting hs
    refine ⟨s, hsent, hname, ?_⟩
    simp only [Entry.series, Sample.series, Entry.ofSample, hlabels,
      labelNames_of_mem_counting hfirst hs]
  · intro hkeys
    rw [hseries, entries_of_nodup_keys hkeys, List.map_map]
    refine (sortSeries_perm _).trans (.of_eq (List.map_congr_left fun s hs => ?_))
    rw [Sample.series, Sample.descriptor_shown,
      labelNames_of_mem_counting hfirst (List.mem_filter.mp hs).1]
    rfl

theorem represents_of_mem {ss : List Sample} (hcomplete : ∀ s ∈ ss, s.isComplete = true)
    {f : Family} (h : f ∈ ofSamples ss) : ∃ first, Represents ss first f := by
  obtain ⟨name, -, hf⟩ := List.mem_filterMap.mp h
  exact represents_of_ofGroup? hcomplete hf

/-- The names that have a family. -/
theorem exists_family_iff {ss : List Sample} {name : String} :
    (∃ f ∈ ofSamples ss, f.name = name) ↔
      (∃ first ∈ (group ss name).head?, first.descriptor.isValid = true) ∧
        ∃ s ∈ counting ss name, ¬s.IsRejected := by
  have hentries : entries (group ss name) ≠ [] ↔ ∃ s ∈ counting ss name, ¬s.IsRejected := by
    rw [entries_group, ne_eq, Entry.foldl_enter_eq_nil_iff]
    simp
  rw [← hentries]
  constructor
  · rintro ⟨f, hf, rfl⟩
    obtain ⟨name, -, hgroup⟩ := List.mem_filterMap.mp hf
    rw [name_of_ofGroup? (fun s hs => (mem_group.mp hs).2) hgroup]
    obtain ⟨first, hfirst, hvalid, hne, -⟩ := ofGroup?_eq_some.mp hgroup
    exact ⟨⟨first, hfirst, hvalid⟩, hne⟩
  · rintro ⟨⟨first, hfirst, hvalid⟩, hne⟩
    have hgroup := ofGroup?_eq_some.mpr ⟨first, hfirst, hvalid, hne, rfl⟩
    have hname := mem_group.mp (List.mem_of_head? hfirst)
    refine ⟨_, List.mem_filterMap.mpr ⟨name, mem_names.mpr ⟨first, hname⟩, hgroup⟩, hname.2⟩

theorem names_ofSamples_sorted (ss : List Sample) :
    ((ofSamples ss).map name).Pairwise (· < ·) := by
  refine List.pairwise_map.mpr (List.Pairwise.filterMap _ ?_ (names_sorted ss))
  intro a b hab f hf g hg
  rwa [name_of_ofGroup? (fun s hs => (mem_group.mp hs).2) hf,
    name_of_ofGroup? (fun s hs => (mem_group.mp hs).2) hg]

/-- **What families mean.** The families of samples that passed the sink are in strictly increasing
order of names. There is one for each name whose first sample can be shown and of which a sample
counts and is not rejected. Each has the help, the type and the label names of that first sample,
and what it shows is told by the samples that count. A sample that does not count may be left out.
-/
theorem ofSamples_meaning (sent : List Sample) :
    let ss := Sample.accepted sent
    ((ofSamples ss).map name).Pairwise (· < ·) ∧
      (∀ name, (∃ f ∈ ofSamples ss, f.name = name) ↔
        (∃ first ∈ (group ss name).head?, first.descriptor.isValid = true) ∧
          ∃ s ∈ counting ss name, ¬s.IsRejected) ∧
      (∀ f ∈ ofSamples ss, ∃ first, Represents ss first f) ∧
      ∀ before t after, ss = before ++ t :: after → ¬Counts before t →
        ofSamples (before ++ after) = ofSamples ss := by
  intro ss
  have hcomplete : ∀ s ∈ ss, s.isComplete = true := fun s hs => (List.mem_filter.mp hs).2
  refine ⟨names_ofSamples_sorted ss, fun name => exists_family_iff,
    fun f => represents_of_mem hcomplete, ?_⟩
  intro before t after hss ht
  rw [hss, ofSamples_of_not_counts ht]

/-- A counter of negative zero. -/
def negativeZero : Sample := .of ⟨"mysql_c", "h", []⟩ .counter (-0) []

/-- Not every sample is shown with its own value: a counter of negative zero is shown as zero. -/
theorem negativeZero_not_own :
    let ss := Sample.accepted [negativeZero]
    ∃ f ∈ ofSamples ss, ((counting ss f.name).map fun s => Entry.key s.labels).Nodup ∧
      ¬f.series.Perm (((counting ss f.name).filter fun s => ¬s.IsRejected).map Sample.series) := by
  intro ss
  have hcounting : counting ss "mysql_c" = [negativeZero] := rfl
  have hkept : ¬negativeZero.IsRejected := by decide +kernel
  have hvalid : negativeZero.descriptor.isValid = true := by decide +kernel
  obtain ⟨f, hf, hname⟩ : ∃ f ∈ ofSamples ss, f.name = "mysql_c" :=
    exists_family_iff.mpr ⟨⟨negativeZero, rfl, hvalid⟩, negativeZero, by simp [hcounting], hkept⟩
  have hcomplete : ∀ s ∈ ss, s.isComplete = true := fun s hs => (List.mem_filter.mp hs).2
  obtain ⟨first, hrepresents⟩ := represents_of_mem hcomplete hf
  have hcounted := hrepresents.counted
  refine ⟨f, hf, ?_⟩
  have hfilter : [negativeZero].filter (fun s => ¬s.IsRejected) = [negativeZero] := by
    simp [hkept]
  rw [hname, hcounting, hfilter] at hcounted ⊢
  refine ⟨by simp, fun hown => ?_⟩
  have hseries : [negativeZero.shown.series] = [negativeZero.series] :=
    List.perm_singleton.mp ((hcounted (by simp)).symm.trans hown)
  have hvalue : negativeZero.shown.value = negativeZero.value := by
    injection congrArg Series.reading (List.cons.inj hseries).1
  exact absurd hvalue (by decide +kernel)

end Family

end MysqlMetrics
