import Mathlib.Data.List.Basic
import MysqlMetrics.Metric.Family

/-!
# Families by name

`Family.ofSamples` makes one family of the samples of each name. A family therefore depends on the
samples of its own name only: what samples of other names there are, and how samples of different
names are mixed, does not matter.

* `filter_ofSamples`: the families of some names are those of the samples of these names.
* `named_ofSamples`: the family of a name is that of the group of its samples.
* `ofSamples_congr`: the same names with the same groups give the same families.
-/

namespace MysqlMetrics.Family

/-! ## The names of samples -/

private theorem nodup_eraseDups (names : List String) : names.eraseDups.Nodup := by
  cases names with
  | nil => simp
  | cons name rest =>
    rw [List.eraseDups_cons, List.nodup_cons]
    refine ⟨fun h => ?_, nodup_eraseDups _⟩
    simpa using (List.mem_filter.mp (List.mem_eraseDups.mp h)).2
termination_by names.length
decreasing_by
  have := List.length_filter_le (fun n => !n == name) rest
  simp only [List.length_cons]
  omega

theorem mem_names {ss : List Sample} {name : String} :
    name ∈ names ss ↔ ∃ s ∈ ss, s.name = name := by
  simp [names, List.mem_eraseDups]

private theorem lt_of_le_of_ne {a b : String} (h : a ≤ b) (hne : a ≠ b) : a < b := by
  rw [← String.not_le]
  exact fun hba => hne (String.le_antisymm h hba)

/-- Every name is listed once, in increasing order. -/
theorem names_sorted (ss : List Sample) : (names ss).Pairwise (· < ·) := by
  have hle := @List.pairwise_mergeSort String (fun a b => decide (a ≤ b))
    (fun a b c hab hbc => by simp only [decide_eq_true_eq] at *; exact String.le_trans hab hbc)
    (fun a b => by simpa using String.le_total a b) (ss.map Sample.name).eraseDups
  have hnd := (List.mergeSort_perm (ss.map Sample.name).eraseDups
    fun a b => decide (a ≤ b)).symm.nodup (nodup_eraseDups _)
  refine (hle.and hnd).imp ?_
  rintro a b ⟨hab, hne⟩
  exact lt_of_le_of_ne (by simpa using hab) hne

private theorem eq_of_sorted {l l' : List String} (h : l.Pairwise (· < ·))
    (h' : l'.Pairwise (· < ·)) (hmem : ∀ name, name ∈ l ↔ name ∈ l') : l = l' := by
  have nodup {l : List String} (h : l.Pairwise (· < ·)) : l.Nodup := by
    refine h.imp ?_
    rintro a _ hab rfl
    exact String.lt_irrefl a hab
  refine List.Perm.eq_of_pairwise (fun a b _ _ hab hba => absurd hba (String.lt_asymm hab)) h h' ?_
  exact (List.perm_ext_iff_of_nodup (nodup h) (nodup h')).mpr hmem

theorem names_congr {ss ss' : List Sample}
    (h : ∀ name, (∃ s ∈ ss, s.name = name) ↔ ∃ s ∈ ss', s.name = name) : names ss = names ss' :=
  eq_of_sorted (names_sorted ss) (names_sorted ss') fun name => by rw [mem_names, mem_names, h]

theorem names_filter (p : String → Bool) (ss : List Sample) :
    names (ss.filter fun s => p s.name) = (names ss).filter p := by
  refine eq_of_sorted (names_sorted _) ((names_sorted ss).filter p) fun name => ?_
  simp only [mem_names, List.mem_filter]
  constructor
  · rintro ⟨s, ⟨hs, hp⟩, rfl⟩
    exact ⟨⟨s, hs, rfl⟩, hp⟩
  · rintro ⟨⟨s, hs, rfl⟩, hp⟩
    exact ⟨s, ⟨hs, hp⟩, rfl⟩

/-! ## The samples of a name -/

theorem mem_group {ss : List Sample} {name : String} {s : Sample} :
    s ∈ group ss name ↔ s ∈ ss ∧ s.name = name := by
  simp [group]

theorem group_filter (p : String → Bool) (ss : List Sample) {name : String} (h : p name = true) :
    group (ss.filter fun s => p s.name) name = group ss name := by
  rw [group, List.filter_filter]
  refine List.filter_congr fun s _ => ?_
  by_cases hs : s.name = name
  · simp [hs, h]
  · simp [hs]

/-- A family has the name of its samples. -/
theorem name_of_ofGroup? {ss : List Sample} {name : String} {f : Family}
    (hss : ∀ s ∈ ss, s.name = name) (h : ofGroup? ss = some f) : f.name = name := by
  cases ss with
  | nil => cases h
  | cons first rest =>
    rw [ofGroup?] at h
    split at h
    · split at h
      · cases h
      · cases h
        exact hss first (by simp)
    · cases h

/-! ## Families -/

@[simp]
theorem ofSamples_nil : ofSamples [] = [] := by
  simp [ofSamples, names]

/-- Every family has the name of a sample. -/
theorem exists_of_mem_ofSamples {ss : List Sample} {f : Family} (h : f ∈ ofSamples ss) :
    ∃ s ∈ ss, s.name = f.name := by
  obtain ⟨name, hname, hf⟩ := List.mem_filterMap.mp h
  rw [name_of_ofGroup? (fun s hs => (mem_group.mp hs).2) hf]
  exact mem_names.mp hname

/-- **Families depend on their own samples.** The families of some names are the families of the
samples of these names. -/
theorem filter_ofSamples (p : String → Bool) (ss : List Sample) :
    ((ofSamples ss).filter fun f => p f.name) = ofSamples (ss.filter fun s => p s.name) := by
  have hname {name : String} {f : Family} (h : ofGroup? (group ss name) = some f) :
      f.name = name := name_of_ofGroup? (fun s hs => (mem_group.mp hs).2) h
  rw [ofSamples, ofSamples, names_filter, List.filter_filterMap, List.filterMap_filter]
  refine List.filterMap_congr fun name _ => ?_
  cases hf : ofGroup? (group ss name) with
  | none =>
    by_cases hp : p name = true
    · simp [hp, group_filter, hf]
    · simp [hp]
  | some f =>
    by_cases hp : p name = true
    · simp [hp, group_filter, hf, hname hf, Option.filter]
    · simp [hp, hname hf, Option.filter]

/-- The family of a name, if there is one. -/
theorem named_ofSamples (ss : List Sample) (name : String) :
    ((ofSamples ss).filter fun f => f.name = name) = (ofGroup? (group ss name)).toList := by
  rw [filter_ofSamples (fun n => decide (n = name)) ss]
  change ofSamples (group ss name) = _
  by_cases h : group ss name = []
  · simp [h, ofSamples, names, ofGroup?]
  · have hnames : names (group ss name) = [name] := by
      refine eq_of_sorted (names_sorted _) (List.pairwise_singleton _ _) fun n => ?_
      obtain ⟨s, hs⟩ := List.exists_mem_of_ne_nil _ h
      rw [mem_names, List.mem_singleton]
      constructor
      · rintro ⟨t, ht, rfl⟩
        exact (mem_group.mp ht).2
      · rintro rfl
        exact ⟨s, hs, (mem_group.mp hs).2⟩
    have hgroup : group (group ss name) name = group ss name := by simp [group]
    rw [ofSamples, hnames, List.filterMap_cons, hgroup]
    cases ofGroup? (group ss name) <;> rfl

/-- Samples of the same names whose groups give the same families give the same families. -/
theorem ofSamples_congr {ss ss' : List Sample}
    (hnames : ∀ name, (∃ s ∈ ss, s.name = name) ↔ ∃ s ∈ ss', s.name = name)
    (hgroup : ∀ name, ofGroup? (group ss name) = ofGroup? (group ss' name)) :
    ofSamples ss = ofSamples ss' := by
  rw [ofSamples, ofSamples, names_congr hnames]
  exact List.filterMap_congr fun name _ => hgroup name

end MysqlMetrics.Family
