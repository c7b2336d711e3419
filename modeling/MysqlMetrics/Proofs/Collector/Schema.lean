import MysqlMetrics.Collector.Basic

/-!
# What collectors send

The names of metrics are made at run time from column and variable names, which a server may choose
as it likes. Whatever it chooses, a sample of a collector is complete, can be shown, carries one of
the collector's few schemas and has a name that only this collector can give.

* `Collector.owns`: the names that begin with a collector's own stem; no two collectors share one
  (`eq_of_owns`).
* `Collector.Sends`: what holds of every sample of a collector (`sends_harvest`, `sends_collect`).
-/

namespace MysqlMetrics

/-! ## Names -/

namespace Metric

/-- All characters of the text are those of name parts. -/
def isNameText (text : String) : Bool := text.toList.all isNameChar

theorem isNameText_append (a b : String) :
    isNameText (a ++ b) = (isNameText a && isNameText b) := by
  rw [isNameText, String.toList_append, List.all_append]
  rfl

theorem isNameText_namePart (text : List Char) :
    isNameText (String.ofList (namePart text)) = true := by
  rw [isNameText, String.toList_ofList]
  exact List.all_eq_true.mpr fun c hc => namePart_form hc

theorem toList_qualifiedName {subsystem : String} (h : subsystem ≠ "") (name : String) :
    (qualifiedName [metricNamespace, subsystem, name]).toList =
      metricNamespace.toList ++ '_' :: subsystem.toList ++
        if name = "" then [] else '_' :: name.toList := by
  have hns : metricNamespace ≠ "" := by decide
  by_cases hn : name = ""
  · simp [qualifiedName, h, hn, hns, String.intercalate_cons_cons, String.intercalate_singleton]
  · simp [qualifiedName, h, hn, hns, String.intercalate_cons_cons, String.intercalate_singleton]

private theorem isAlphanum_of_isNameChar {c : Char} (h : isNameChar c = true) :
    (c.isAlphanum || c = '_' || c = ':') = true := by
  simp only [isNameChar, Bool.or_eq_true, decide_eq_true_eq] at h
  rcases h with (h | h) | h
  · have halpha : c.isAlpha = true := Bool.or_eq_true_iff.mpr (.inr h)
    simp [Char.isAlphanum, halpha]
  · simp [Char.isAlphanum, h]
  · simp [h]

/-- A name made of a subsystem and a part, both of name characters, has name characters only. -/
theorem isNameText_qualifiedName {subsystem name : String} (h : subsystem ≠ "")
    (hs : isNameText subsystem = true) (hn : isNameText name = true) :
    isNameText (qualifiedName [metricNamespace, subsystem, name]) = true := by
  have hns : metricNamespace.toList.all isNameChar = true := by decide
  have hbar : isNameChar '_' = true := by decide
  have hrest : (if name = "" then [] else '_' :: name.toList).all isNameChar = true := by
    split
    · rfl
    · rw [List.all_cons, hbar]
      exact hn
  rw [isNameText, toList_qualifiedName h, List.all_append, List.all_append, List.all_cons, hns,
    hbar, hrest, Bool.and_true]
  exact hs

/-- A text of name characters that begins with a letter is a valid name. -/
theorem isValidName_of_isNameText {text : String} {c : Char} {rest : List Char}
    (htext : text.toList = c :: rest) (hc : c.isAlpha = true) (h : isNameText text = true) :
    isValidName text = true := by
  rw [isNameText, htext, List.all_cons, Bool.and_eq_true] at h
  rw [isValidName, htext, Bool.and_eq_true]
  refine ⟨by simp [hc], List.all_eq_true.mpr fun d hd => ?_⟩
  exact isAlphanum_of_isNameChar (List.all_eq_true.mp h.2 d hd)

end Metric

namespace Descriptor

theorem isValid_of {subsystem name help : String} {labelNames : List String} (h : subsystem ≠ "")
    (hs : Metric.isNameText subsystem = true) (hn : Metric.isNameText name = true)
    (hhelp : help ≠ "")
    (hl : labelNames.all Metric.isValidLabel = true ∧ labelNames.Nodup) :
    (Descriptor.of subsystem name help labelNames).isValid = true := by
  have hname := Metric.isValidName_of_isNameText (Metric.toList_qualifiedName h name) (by decide)
    (Metric.isNameText_qualifiedName h hs hn)
  simp only [isValid, Descriptor.of, hname, hl.1, hl.2, decide_true, Bool.and_true]
  exact decide_eq_true hhelp

end Descriptor

namespace Collector

/-- What the names of a collector's metrics begin with. -/
def stem (c : Collector) : String := metricNamespace ++ "_" ++ c.name

/-- The metric's name begins with the stem of the collector. -/
def owns (c : Collector) (metric : String) : Bool := c.stem.toList.isPrefixOf metric.toList

theorem owns_iff {c : Collector} {metric : String} :
    c.owns metric = true ↔ ∃ rest, metric.toList = c.stem.toList ++ rest := by
  rw [owns, List.isPrefixOf_iff_prefix]
  exact exists_congr fun _ => eq_comm

/-- **No shared names.** A metric's name tells the collector. -/
theorem eq_of_owns {c d : Collector} {metric : String} (hc : c.owns metric = true)
    (hd : d.owns metric = true) : c = d := by
  obtain ⟨r, hr⟩ := owns_iff.mp hc
  obtain ⟨t, ht⟩ := owns_iff.mp hd
  rw [hr] at ht
  -- The stems differ in the first character behind the namespace.
  cases c <;> cases d <;> first | rfl | (simp [stem, name, metricNamespace] at ht)

theorem owns_of (c : Collector) (name help : String) (labelNames : List String) :
    c.owns (Descriptor.of c.name name help labelNames).name = true := by
  rw [owns_iff, Descriptor.of, Metric.toList_qualifiedName (by cases c <;> decide)]
  exact ⟨_, by simp [stem]; rfl⟩

/-! ## Schemas -/

/-- The types and label names of a collector's samples. -/
def schemas : Collector → List (MetricType × List String)
  | statusVariables => [(.untyped, [])]
  | binaryLog => [(.gauge, []), (.gauge, ["executed_server_id"])]
  | replication =>
    [(.untyped, Replication.labelNames),
      (.gauge, Replication.labelNames ++ [Replication.serverLabel])]
  | accounts => [(.gauge, Accounts.labelNames)]

/-- What holds of every sample that a collector sends. -/
structure Sends (c : Collector) (s : Sample) : Prop where
  owned : c.owns s.name = true
  spelled : Metric.isNameText s.name = true
  complete : s.isComplete = true
  valid : s.descriptor.isValid = true
  schema : (s.type, s.descriptor.labelNames) ∈ c.schemas

/-- The number of labels tells which of its schemas a collector's sample has. -/
theorem schema_eq_of_length {c : Collector} {a b : MetricType × List String}
    (ha : a ∈ c.schemas) (hb : b ∈ c.schemas) (h : a.2.length = b.2.length) : a = b := by
  cases c <;> simp only [schemas, List.mem_cons, List.not_mem_nil, or_false] at ha hb
  · rw [ha, hb]
  · rcases ha with rfl | rfl <;> rcases hb with rfl | rfl <;> first | rfl | cases h
  · rcases ha with rfl | rfl <;> rcases hb with rfl | rfl <;> first | rfl | cases h
  · rw [ha, hb]

/-- No collector sends counters. -/
theorem type_ne_counter {c : Collector} {s : Sample} (h : c.Sends s) : s.type ≠ .counter := by
  have hs := h.schema
  intro hc
  rw [hc] at hs
  cases c <;> simp [schemas] at hs

/-- A sample whose name is the collector's subsystem and a part of name characters. -/
private theorem sends_of (c : Collector) {name help : String} {labelNames labels : List String}
    {type : MetricType} (value : Float) (hn : Metric.isNameText name = true)
    (hhelp : help ≠ "") (hl : labelNames.all Metric.isValidLabel = true ∧ labelNames.Nodup)
    (hlen : labels.length = labelNames.length) (hs : (type, labelNames) ∈ c.schemas) :
    c.Sends (.of (.of c.name name help labelNames) type value labels) where
  owned := owns_of c name help labelNames
  spelled := Metric.isNameText_qualifiedName (by cases c <;> decide) (by cases c <;> decide) hn
  complete := decide_eq_true hlen
  valid := Descriptor.isValid_of (by cases c <;> decide) (by cases c <;> decide) hn hhelp hl
  schema := hs

/-! ## The samples of each collector -/

theorem mem_samples_sequence {hs : List Harvest} {s : Sample}
    (h : s ∈ (Harvest.sequence hs).samples) : ∃ a ∈ hs, s ∈ a.samples := by
  induction hs with
  | nil => cases h
  | cons a rest ih =>
    rw [Harvest.sequence, Harvest.andThen] at h
    split at h
    · exact ⟨a, by simp, h⟩
    · rcases List.mem_append.mp h with h | h
      · exact ⟨a, by simp, h⟩
      · obtain ⟨b, hb, hs⟩ := ih h
        exact ⟨b, by simp [hb], hs⟩

private theorem sends_statusVariables {rows : RowSet} {s : Sample}
    (h : s ∈ (StatusVariables.harvest rows).samples) : statusVariables.Sends s := by
  rw [StatusVariables.harvest] at h
  split at h
  · cases h
  · obtain ⟨row, -, hs⟩ := List.mem_filterMap.mp h
    simp only [StatusVariables.sample?, Option.bind_eq_bind, Option.bind_eq_some_iff] at hs
    obtain ⟨name, -, value, -, x, -, hs⟩ := hs
    cases hs
    exact sends_of statusVariables x (Metric.isNameText_namePart _) (by decide) (by decide) rfl
      (by decide)

private theorem sends_position {file offset : String} {s : Sample}
    (h : s ∈ (BinaryLog.position file offset).samples) : binaryLog.Sends s := by
  rw [BinaryLog.position] at h
  split at h
  · cases h
  split at h
  · cases h
  split at h
  · cases h
  · simp only [Harvest.of, List.mem_cons, List.not_mem_nil, or_false] at h
    rcases h with rfl | rfl
    · exact sends_of binaryLog _ (by decide) (by decide) (by decide) rfl (by decide)
    · exact sends_of binaryLog _ (by decide) (by decide) (by decide) rfl (by decide)

private theorem sends_transactions {text : String} {s : Sample}
    (h : s ∈ (BinaryLog.transactions text).samples) : binaryLog.Sends s := by
  rw [BinaryLog.transactions] at h
  split at h
  · cases h
  split at h
  · cases h
  · obtain ⟨set, -, hs⟩ := List.mem_flatMap.mp h
    simp only [BinaryLog.bounds, List.mem_cons, List.not_mem_nil, or_false] at hs
    rcases hs with rfl | rfl
    · exact sends_of binaryLog _ (by decide) (by decide) (by decide) rfl (by decide)
    · exact sends_of binaryLog _ (by decide) (by decide) (by decide) rfl (by decide)

private theorem sends_binaryLog {rows : RowSet} {s : Sample}
    (h : s ∈ (BinaryLog.harvest rows).samples) : binaryLog.Sends s := by
  rw [BinaryLog.harvest] at h
  split at h
  · cases h
  · rw [Harvest.andThen] at h
    split at h
    · exact sends_position h
    · rcases List.mem_append.mp h with h | h
      · exact sends_position h
      · exact sends_transactions h

private theorem sends_cell {context : Replication.Context} {column : String}
    {value : Option String} {s : Sample}
    (h : s ∈ (Replication.cell context column value).samples) : replication.Sends s := by
  rw [Replication.cell] at h
  split at h
  · cases h
  split at h
  · rw [Replication.transactions] at h
    split at h
    · cases h
    split at h
    · cases h
    · obtain ⟨set, -, hs⟩ := List.mem_flatMap.mp h
      simp only [Replication.bounds, List.mem_cons, List.not_mem_nil, or_false] at hs
      rcases hs with rfl | rfl
      · exact sends_of replication _ (by decide) (by decide) (by decide) rfl (by decide)
      · exact sends_of replication _ (by decide) (by decide) (by decide) rfl (by decide)
  split at h
  · rw [Replication.logFile] at h
    split at h
    · cases h
    split at h
    · cases h
    · rw [Harvest.of, List.mem_singleton] at h
      subst h
      refine sends_of replication _ ?_ (by decide) (by decide) rfl (by decide)
      rw [Metric.isNameText_append, Metric.isNameText_namePart]
      decide
  · rw [Replication.statusValue] at h
    split at h
    · rw [Harvest.of, List.mem_singleton] at h
      subst h
      exact sends_of replication _ (Metric.isNameText_namePart _) (by decide) (by decide) rfl
        (by decide)
    · cases h

private theorem sends_replication {rows : RowSet} {s : Sample}
    (h : s ∈ (Replication.harvest rows).samples) : replication.Sends s := by
  obtain ⟨row, hrow, h⟩ := mem_samples_sequence h
  obtain ⟨r, -, rfl⟩ := List.mem_map.mp hrow
  obtain ⟨cell, hcell, h⟩ := mem_samples_sequence h
  obtain ⟨p, -, rfl⟩ := List.mem_map.mp hcell
  exact sends_cell h

private theorem sends_accounts {rows : RowSet} {s : Sample}
    (h : s ∈ (Accounts.harvest rows).samples) : accounts.Sends s := by
  obtain ⟨row, -, h⟩ := List.mem_flatMap.mp h
  obtain ⟨p, -, hp⟩ := List.mem_filterMap.mp h
  obtain ⟨x, -, rfl⟩ := Option.map_eq_some_iff.mp hp
  exact sends_of accounts x (Metric.isNameText_namePart _) (by decide) (by decide) rfl (by decide)

/-- **What collectors send.** Every sample that comes of a collector's rows has the collector's
form, whatever the rows hold. -/
theorem sends_harvest {c : Collector} {rows : RowSet} {s : Sample}
    (h : s ∈ (c.harvest rows).samples) : c.Sends s := by
  cases c with
  | statusVariables => exact sends_statusVariables h
  | binaryLog => exact sends_binaryLog h
  | replication => exact sends_replication h
  | accounts => exact sends_accounts h

/-- The same of a run, which may also fail or run out of time. -/
theorem sends_collect {c : Collector} {server : Server} {deadline : Deadline} {log : Log}
    {now : Duration} {s : Sample} (h : s ∈ (c.collect server deadline log now).outcome.samples) :
    c.Sends s := by
  simp only [collect] at h
  cases hf : (Fetch.run server deadline log now c.attempts).outcome with
  | rows rows =>
    rw [hf] at h
    exact sends_harvest h
  | failed e =>
    rw [hf] at h
    cases h
  | timedOut =>
    rw [hf] at h
    cases h

end Collector

end MysqlMetrics
