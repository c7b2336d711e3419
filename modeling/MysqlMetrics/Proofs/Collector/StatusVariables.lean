import MysqlMetrics.Proofs.Collector.Fallback
import MysqlMetrics.Proofs.Collector.Schema
import MysqlMetrics.Proofs.Metric.Series

/-!
# What the status variables give

Many variables may have the same name when it is made part of a metric's name. Of the rows of such
variables the first one that has a value decides; rows without a name or a value, and rows whose
value can not be read, do not count.

* `Gives`: what a row gives. `sample?_eq_some`: it is what the collector sends for it.
* `IsFirst`: what a name part is given first.
* `samples_insert`: a row that gives nothing may be left out.
* `mem_families_iff`: the families of the samples, one for each part that is given a value.
* `succeeded_eq_false_iff`, `exists_of_succeeded`: the run of the collector.
-/

namespace MysqlMetrics.StatusVariables

/-- The rows are no list of variables: there are some, without one of the two columns. -/
def IsUnlisted (rows : RowSet) : Prop :=
  rows.cells ≠ [] ∧ ("Variable_name" ∉ rows.columns ∨ "Value" ∉ rows.columns)

/-- The row has a name that becomes `part`, and a value that is read as `x`. -/
def Gives (row : Row) (part : String) (x : Float) : Prop :=
  ∃ name value, row.get? "Variable_name" = some name ∧ row.get? "Value" = some value ∧
    Status.value? value.toList = some x ∧ part = String.ofList (Metric.namePart name.toList)

/-- Of the rows that give `part` a value, the first one gives `x`. -/
def IsFirst (rows : RowSet) (part : String) (x : Float) : Prop :=
  ∃ before row after, rows.rows = before ++ row :: after ∧ Gives row part x ∧
    ∀ r ∈ before, ∀ y, ¬Gives r part y

/-- The sample of a name part. -/
def sample (part : String) (x : Float) : Sample :=
  .of (.of subsystem part "Generic metric from SHOW GLOBAL STATUS." []) .untyped x []

/-- The family of a name part: a gauge with a single series, without labels. -/
def family (part : String) (x : Float) : Family where
  name := if part = "" then "mysql_global_status" else "mysql_global_status_" ++ part
  help := "Generic metric from SHOW GLOBAL STATUS."
  type := .gauge
  series := [⟨[], .single x⟩]

/-! ## Rows and samples -/

theorem sample?_eq_some {row : Row} {t : Sample} :
    sample? row = some t ↔ ∃ part x, Gives row part x ∧ t = sample part x := by
  simp only [sample?, Option.bind_eq_bind, Option.bind_eq_some_iff, Option.pure_def,
    Option.some_inj]
  constructor
  · rintro ⟨name, hname, value, hvalue, x, hx, rfl⟩
    exact ⟨_, x, ⟨name, value, hname, hvalue, hx, rfl⟩, rfl⟩
  · rintro ⟨_, x, ⟨name, value, hname, hvalue, hx, rfl⟩, rfl⟩
    exact ⟨name, hname, value, hvalue, x, hx, rfl⟩

theorem name_sample (part : String) (x : Float) : (sample part x).name = (family part x).name := by
  rw [← String.toList_inj]
  have hname : (sample part x).name.toList = metricNamespace.toList ++ '_' :: subsystem.toList ++
      if part = "" then [] else '_' :: part.toList :=
    Metric.toList_qualifiedName (by decide) part
  rw [hname, family]
  split
  · simp [metricNamespace, subsystem]
  · simp [metricNamespace, subsystem]

/-- The name of a sample tells its part. -/
theorem eq_of_name_sample {part part' : String} {x y : Float}
    (h : (sample part x).name = (sample part' y).name) : part = part' := by
  rw [name_sample, name_sample, family, family, ← String.toList_inj] at h
  by_cases hpart : part = "" <;> by_cases hpart' : part' = ""
  · rw [hpart, hpart']
  · simp [hpart, hpart'] at h
  · simp [hpart, hpart'] at h
  · simpa [hpart, hpart', String.toList_inj] using h

theorem gives_of_name {row : Row} {t : Sample} {part : String} {x : Float}
    (h : sample? row = some t) (hname : t.name = (sample part x).name) :
    ∃ y, Gives row part y := by
  obtain ⟨part', y, hgives, rfl⟩ := sample?_eq_some.mp h
  exact ⟨y, eq_of_name_sample hname ▸ hgives⟩

/-- The first sample of a name is that of the first row that gives its part a value. -/
theorem find?_samples {rows : RowSet} {t : Sample} :
    (rows.rows.filterMap sample?).find? (fun u => u.name = t.name) = some t ↔
      ∃ part x, IsFirst rows part x ∧ t = sample part x := by
  rw [List.find?_filterMap, Option.bind_eq_some_iff]
  constructor
  · rintro ⟨row, hfind, ht⟩
    obtain ⟨-, before, after, hsplit, hbefore⟩ := List.find?_eq_some_iff_append.mp hfind
    obtain ⟨part, x, hgives, rfl⟩ := sample?_eq_some.mp ht
    refine ⟨part, x, ⟨before, row, after, hsplit, hgives, fun r hr y hy => ?_⟩, rfl⟩
    have hsample := sample?_eq_some.mpr ⟨part, y, hy, rfl⟩
    have hother := hbefore r hr
    simp [hsample, name_sample, family] at hother
  · rintro ⟨part, x, ⟨before, row, after, hsplit, hgives, hbefore⟩, rfl⟩
    have hsample := sample?_eq_some.mpr ⟨part, x, hgives, rfl⟩
    refine ⟨row, List.find?_eq_some_iff_append.mpr ⟨?_, before, after, hsplit, ?_⟩, hsample⟩
    · simp [hsample]
    · intro r hr
      cases hr' : sample? r with
      | none => rfl
      | some u =>
        have hne : u.name ≠ (sample part x).name := fun hname => by
          obtain ⟨y, hy⟩ := gives_of_name hr' hname
          exact hbefore r hr y hy
        simpa using hne

/-- A part has one value only. -/
theorem IsFirst.unique {rows : RowSet} {part : String} {x y : Float} (hx : IsFirst rows part x)
    (hy : IsFirst rows part y) : x = y := by
  have hname : (sample part x).name = (sample part y).name := by
    rw [name_sample, name_sample]
    rfl
  have hfindx := find?_samples.mpr ⟨part, x, hx, rfl⟩
  have hfindy := find?_samples.mpr ⟨part, y, hy, rfl⟩
  rw [hname, hfindy] at hfindx
  exact (congrArg Sample.value (Option.some.inj hfindx)).symm

/-- A fault leaves nothing out: without the two columns no row gives anything. -/
theorem harvest_samples (rows : RowSet) :
    (harvest rows).samples = rows.rows.filterMap sample? := by
  rw [harvest]
  split
  · rename_i hunlisted
    have hcolumn : nameColumn ∉ rows.columns ∨ valueColumn ∉ rows.columns :=
      not_and_or.mp hunlisted.2
    symm
    refine List.filterMap_eq_nil_iff.mpr fun row hrow => ?_
    obtain ⟨cells, -, rfl⟩ := List.mem_map.mp hrow
    rw [Option.eq_none_iff_forall_ne_some]
    intro t ht
    obtain ⟨part, x, ⟨name, value, hname, hvalue, -⟩, -⟩ := sample?_eq_some.mp ht
    rcases hcolumn with hcolumn | hcolumn
    · have hnone : rows.columns.idxOf? "Variable_name" = none := List.idxOf?_eq_none_iff.mpr hcolumn
      simp [Row.get?_eq, hnone] at hname
    · have hnone : rows.columns.idxOf? "Value" = none := List.idxOf?_eq_none_iff.mpr hcolumn
      simp [Row.get?_eq, hnone] at hvalue
  · rfl

theorem samples_of_isUnlisted {rows : RowSet} (h : IsUnlisted rows) :
    (harvest rows).samples = [] := by
  rw [harvest, if_pos]
  · rfl
  · rwa [IsUnlisted, ← not_and_or] at h

theorem fault_harvest (rows : RowSet) : (harvest rows).fault.isNone = false ↔ IsUnlisted rows := by
  rw [harvest, IsUnlisted, ← not_and_or]
  by_cases h : rows.cells ≠ [] ∧ ¬(nameColumn ∈ rows.columns ∧ valueColumn ∈ rows.columns)
  · rw [if_pos h]
    exact ⟨fun _ => h, fun _ => rfl⟩
  · rw [if_neg h]
    exact ⟨fun hfault => Bool.noConfusion hfault, fun hunlisted => absurd hunlisted h⟩

/-- A row that gives nothing may be left out. -/
theorem samples_insert {columns : List String} {before after : List (List (Option String))}
    {cells : List (Option String)} (h : ∀ part x, ¬Gives ⟨columns, cells⟩ part x) :
    (harvest ⟨columns, before ++ cells :: after⟩).samples =
      (harvest ⟨columns, before ++ after⟩).samples := by
  have hnone : sample? ⟨columns, cells⟩ = none := by
    rw [Option.eq_none_iff_forall_ne_some]
    intro t ht
    obtain ⟨part, x, hgives, -⟩ := sample?_eq_some.mp ht
    exact h part x hgives
  rw [harvest_samples, harvest_samples, RowSet.rows, RowSet.rows, List.map_append, List.map_cons,
    List.map_append, List.filterMap_append, List.filterMap_cons_none hnone, List.filterMap_append]

/-! ## Families -/

theorem series_sample (part : String) (x : Float) : (sample part x).series = ⟨[], .single x⟩ := by
  simp [sample, Sample.series, Entry.series, Entry.ofSample, Sample.of, Descriptor.of]

/-- **One family for each part.** The families of the samples are those of the parts that are given
a value, each with the value that is given first. -/
theorem mem_families_iff {rows : RowSet} {f : Family} :
    f ∈ Family.ofSamples (harvest rows).samples ↔
      ∃ part x, IsFirst rows part x ∧ f = family part x := by
  have hsends : ∀ t ∈ (harvest rows).samples, Collector.statusVariables.Sends t := fun t ht =>
    Collector.sends_harvest (c := .statusVariables) ht
  have hlabels : ∀ t ∈ (harvest rows).samples, t.labels = [] := by
    intro t ht
    rw [harvest_samples] at ht
    obtain ⟨row, -, hrow⟩ := List.mem_filterMap.mp ht
    obtain ⟨part, x, -, rfl⟩ := sample?_eq_some.mp hrow
    rfl
  have hfamily (part : String) (x : Float) : (⟨(sample part x).name,
      (sample part x).descriptor.help, (sample part x).type.shown,
      [(sample part x).series]⟩ : Family) = family part x := by
    rw [name_sample, series_sample]
    rfl
  rw [Family.mem_ofSamples_of_labels (fun t ht => (hsends t ht).valid)
    (fun t ht => Collector.type_ne_counter (hsends t ht)) hlabels, harvest_samples]
  constructor
  · rintro ⟨t, hfind, rfl⟩
    obtain ⟨part, x, hfirst, rfl⟩ := find?_samples.mp hfind
    exact ⟨part, x, hfirst, hfamily part x⟩
  · rintro ⟨part, x, hfirst, rfl⟩
    exact ⟨sample part x, find?_samples.mpr ⟨part, x, hfirst, rfl⟩, (hfamily part x).symm⟩

theorem eq_of_family_eq {part part' : String} {x y : Float} (h : family part x = family part' y) :
    part = part' ∧ x = y := by
  have hname := congrArg Family.name h
  rw [← name_sample, ← name_sample part' y] at hname
  refine ⟨eq_of_name_sample hname, ?_⟩
  have hseries := congrArg Family.series h
  simpa [family] using hseries

/-- The families show the value that is given first, and no other. -/
theorem family_mem_iff {rows : RowSet} {part : String} {x : Float} :
    family part x ∈ Family.ofSamples (harvest rows).samples ↔ IsFirst rows part x := by
  rw [mem_families_iff]
  constructor
  · rintro ⟨part', y, hfirst, heq⟩
    obtain ⟨rfl, rfl⟩ := eq_of_family_eq heq
    exact hfirst
  · exact fun hfirst => ⟨part, x, hfirst, rfl⟩

/-! ## The run of the collector -/

section Run

variable {server : Server} {log : Log}

theorem outcome_of_ok {rows : RowSet} (now : Duration)
    (h : (server.answer log "SHOW GLOBAL STATUS").result = .ok rows) :
    (Collector.statusVariables.collect server none log now).outcome = .finished (harvest rows) :=
  Collector.outcome_of_obtains (.here h) now

theorem outcome_of_error {fault : QueryError} (now : Duration)
    (h : (server.answer log "SHOW GLOBAL STATUS").result = .error fault) :
    ∃ fault', (Collector.statusVariables.collect server none log now).outcome =
      .finished (.failed fault') :=
  Collector.outcome_of_refuses (.cons h .nil) now

/-- The collector fails exactly if the query is refused or brings no list of variables. -/
theorem succeeded_eq_false_iff (server : Server) (log : Log) (now : Duration) :
    (Collector.statusVariables.collect server none log now).outcome.succeeded = false ↔
      (∃ fault, (server.answer log "SHOW GLOBAL STATUS").result = .error fault) ∨
        ∃ rows, (server.answer log "SHOW GLOBAL STATUS").result = .ok rows ∧ IsUnlisted rows := by
  cases h : (server.answer log "SHOW GLOBAL STATUS").result with
  | ok rows =>
    rw [outcome_of_ok now h, Collector.Outcome.succeeded, fault_harvest]
    simp
  | error fault =>
    obtain ⟨fault', houtcome⟩ := outcome_of_error now h
    rw [houtcome]
    exact ⟨fun _ => .inl ⟨fault, rfl⟩, fun _ => rfl⟩

/-- If it fails it brings in nothing. -/
theorem samples_of_not_succeeded {now : Duration}
    (h : (Collector.statusVariables.collect server none log now).outcome.succeeded = false) :
    (Collector.statusVariables.collect server none log now).outcome.samples = [] := by
  rcases (succeeded_eq_false_iff server log now).mp h with ⟨fault, h⟩ | ⟨rows, h, hunlisted⟩
  · obtain ⟨fault', houtcome⟩ := outcome_of_error now h
    rw [houtcome]
    rfl
  · rw [outcome_of_ok now h]
    exact samples_of_isUnlisted hunlisted

/-- If it succeeds it has obtained a list of variables. -/
theorem exists_of_succeeded {now : Duration}
    (h : (Collector.statusVariables.collect server none log now).outcome.succeeded = true) :
    ∃ rows, (server.answer log "SHOW GLOBAL STATUS").result = .ok rows ∧ ¬IsUnlisted rows ∧
      (Collector.statusVariables.collect server none log now).outcome.samples =
        (harvest rows).samples := by
  have hsound := mt (succeeded_eq_false_iff server log now).mpr (by simp [h])
  rw [not_or] at hsound
  cases hanswer : (server.answer log "SHOW GLOBAL STATUS").result with
  | ok rows =>
    refine ⟨rows, rfl, fun hunlisted => hsound.2 ⟨rows, hanswer, hunlisted⟩, ?_⟩
    rw [outcome_of_ok now hanswer]
    rfl
  | error fault => exact absurd ⟨fault, hanswer⟩ hsound.1

end Run

end MysqlMetrics.StatusVariables
