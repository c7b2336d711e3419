import MysqlMetrics.Proofs.Collector.Fallback
import MysqlMetrics.Proofs.Gtid.Grammar
import MysqlMetrics.Proofs.Metric.Series
import MysqlMetrics.Proofs.Status.LogFile

/-!
# What the position in the binary log gives

The last row is read in two parts. The file and the position give a pair of samples or nothing, and
then the executed transactions give a pair for each entry or nothing; a malformed part gives nothing
and ends the reading.

* `GivesPosition`, `MalformedPosition` and `GivesTransactions`, `MalformedTransactions`: the parts.
* `Derives`: the samples of a result set, and whether it was read to its end. `derives_iff`: the
  collector brings in exactly these. `harvest_congr`: only the last row counts.
* `leadingSets`: the entries that a family shows of each server (`mem_leadingSets`).
* `seriesOf_perm_leadingSets`: the first and the last transactions that are shown.
* `succeeded_eq_false_iff`, `exists_paired`: the run of the collector.
-/

namespace MysqlMetrics.BinaryLog

open MysqlMetrics.Text

/-! ## The parts of a row -/

/-- There are rows, and neither four nor five columns. -/
def IsMisshapen (rows : RowSet) : Prop :=
  rows.cells ≠ [] ∧ rows.columns.length ≠ 4 ∧ rows.columns.length ≠ 5

/-- The samples of the file's number and of the position. -/
def positionPair (n p : Nat) : List Sample :=
  [.of fileNumber .gauge (Decimal.ofNatural64 n) [],
    .of filePosition .gauge (Decimal.ofNatural64 p) []]

/-- What the file and the position give: nothing if the binary log is off, and otherwise a pair. -/
inductive GivesPosition (file offset : String) : List Sample → Prop
  | off (h : file = "") : GivesPosition file offset []
  | on {n p : Nat} (hfile : file ≠ "") (hn : LogFile.IsNumbered file.toList n)
      (hp : IsNatural offset.toList p) (hlimit : p ≤ maxNatural64) :
      GivesPosition file offset (positionPair n p)

/-- The binary log is on, and its file has no point with a number of 64 bits behind it or its
position is no such number. -/
structure MalformedPosition (file offset : String) : Prop where
  on : file ≠ ""
  malformed : (¬∃ n, LogFile.IsNumbered file.toList n) ∨
    ¬∃ p, IsNatural offset.toList p ∧ p ≤ maxNatural64

/-- The text is empty or blank. -/
def IsBlankText (text : String) : Prop := ∀ c ∈ text.toList, isBlank c = true

/-- The entries of a set of transactions; a blank text has none. -/
inductive GivesTransactions (text : String) : List TransactionSet → Prop
  | blank (h : IsBlankText text) : GivesTransactions text []
  | sets {sets : List TransactionSet} (h : ¬IsBlankText text)
      (hsets : Gtid.Writes text.toList sets) : GivesTransactions text sets

/-- The text is not blank and no set of transactions. -/
structure MalformedTransactions (text : String) : Prop where
  notBlank : ¬IsBlankText text
  malformed : ¬∃ sets, Gtid.Writes text.toList sets

/-- The samples of a result set, and whether it was read to its end. -/
inductive Derives (rows : RowSet) : List Sample → Bool → Prop
  | misshapen (h : IsMisshapen rows) : Derives rows [] false
  | noPosition (h : ¬IsMisshapen rows)
      (hposition : MalformedPosition (lastText rows "File") (lastText rows "Position")) :
      Derives rows [] false
  | noTransactions {pair : List Sample} (h : ¬IsMisshapen rows)
      (hposition : GivesPosition (lastText rows "File") (lastText rows "Position") pair)
      (hsets : MalformedTransactions (lastText rows "Executed_Gtid_Set")) :
      Derives rows pair false
  | complete {pair : List Sample} {sets : List TransactionSet} (h : ¬IsMisshapen rows)
      (hposition : GivesPosition (lastText rows "File") (lastText rows "Position") pair)
      (hsets : GivesTransactions (lastText rows "Executed_Gtid_Set") sets) :
      Derives rows (pair ++ sets.flatMap bounds) true

/-! ## What the parts bring in -/

section Parts

variable {file offset text : String}

theorem GivesPosition.position_eq {pair : List Sample} (h : GivesPosition file offset pair) :
    position file offset = .of pair := by
  cases h with
  | off h =>
    rw [position, if_pos h]
    rfl
  | on hfile hn hp hlimit =>
    rw [position, if_neg hfile, LogFile.number_eq_ok.mpr hn]
    simp only [Natural.read_eq_ok.mpr ⟨hp, hlimit⟩]
    rfl

theorem MalformedPosition.position_eq (h : MalformedPosition file offset) :
    ∃ e, position file offset = .failed e := by
  rw [position, if_neg h.on]
  cases hnumber : LogFile.number file.toList with
  | error e => exact ⟨_, rfl⟩
  | ok n =>
    cases hread : Natural.read maxNatural64 offset.toList with
    | error cause => exact ⟨_, rfl⟩
    | ok p =>
      rcases h.malformed with hnot | hnot
      · exact absurd ⟨n, LogFile.number_eq_ok.mp hnumber⟩ hnot
      · exact absurd ⟨p, Natural.read_eq_ok.mp hread⟩ hnot

theorem givesPosition_or_malformed (file offset : String) :
    (∃ pair, GivesPosition file offset pair) ∨ MalformedPosition file offset := by
  by_cases hfile : file = ""
  · exact .inl ⟨[], .off hfile⟩
  by_cases hn : ∃ n, LogFile.IsNumbered file.toList n
  · by_cases hp : ∃ p, IsNatural offset.toList p ∧ p ≤ maxNatural64
    · obtain ⟨n, hn⟩ := hn
      obtain ⟨p, hp, hlimit⟩ := hp
      exact .inl ⟨_, .on hfile hn hp hlimit⟩
    · exact .inr ⟨hfile, .inr hp⟩
  · exact .inr ⟨hfile, .inl hn⟩

theorem GivesTransactions.transactions_eq {sets : List TransactionSet}
    (h : GivesTransactions text sets) : transactions text = .of (sets.flatMap bounds) := by
  cases h with
  | blank h =>
    rw [transactions, if_pos (trim_eq_nil_iff.mpr h)]
    rfl
  | sets h hsets =>
    rw [transactions, if_neg (mt trim_eq_nil_iff.mp h), Gtid.read_eq_ok.mpr hsets]

theorem MalformedTransactions.transactions_eq (h : MalformedTransactions text) :
    ∃ e, transactions text = .failed e := by
  rw [transactions, if_neg (mt trim_eq_nil_iff.mp h.notBlank)]
  cases hread : Gtid.read text.toList with
  | ok sets => exact absurd ⟨sets, Gtid.read_eq_ok.mp hread⟩ h.malformed
  | error cause => exact ⟨_, rfl⟩

theorem givesTransactions_or_malformed (text : String) :
    (∃ sets, GivesTransactions text sets) ∨ MalformedTransactions text := by
  by_cases hblank : IsBlankText text
  · exact .inl ⟨[], .blank hblank⟩
  by_cases hsets : ∃ sets, Gtid.Writes text.toList sets
  · obtain ⟨sets, hsets⟩ := hsets
    exact .inl ⟨sets, .sets hblank hsets⟩
  · exact .inr ⟨hblank, hsets⟩

end Parts

/-! ## What a result set brings in -/

section Rows

variable {rows : RowSet} {samples : List Sample} {complete : Bool}

theorem harvest_of_misshapen (h : IsMisshapen rows) : ∃ e, harvest rows = .failed e := by
  rw [harvest, if_pos ⟨h.1, not_or.mpr h.2⟩]
  exact ⟨_, rfl⟩

theorem harvest_of_not_misshapen (h : ¬IsMisshapen rows) :
    harvest rows = (position (lastText rows "File") (lastText rows "Position")).andThen
      (transactions (lastText rows "Executed_Gtid_Set")) := by
  rw [harvest, if_neg]
  rwa [not_or]

theorem Derives.harvest_eq (h : Derives rows samples complete) :
    (harvest rows).samples = samples ∧ (harvest rows).fault.isNone = complete := by
  cases h with
  | misshapen h =>
    obtain ⟨e, he⟩ := harvest_of_misshapen h
    rw [he]
    exact ⟨rfl, rfl⟩
  | noPosition h hposition =>
    obtain ⟨e, he⟩ := hposition.position_eq
    rw [harvest_of_not_misshapen h, he]
    exact ⟨rfl, rfl⟩
  | noTransactions h hposition hsets =>
    obtain ⟨e, he⟩ := hsets.transactions_eq
    rw [harvest_of_not_misshapen h, hposition.position_eq, he]
    exact ⟨List.append_nil _, rfl⟩
  | complete h hposition hsets =>
    rw [harvest_of_not_misshapen h, hposition.position_eq, hsets.transactions_eq]
    exact ⟨rfl, rfl⟩

/-- Every result set derives some samples, and is read to its end unless something is wrong. -/
theorem exists_derives (rows : RowSet) : ∃ samples complete, Derives rows samples complete := by
  by_cases h : IsMisshapen rows
  · exact ⟨_, _, .misshapen h⟩
  rcases givesPosition_or_malformed (lastText rows "File") (lastText rows "Position") with
    ⟨pair, hposition⟩ | hposition
  · rcases givesTransactions_or_malformed (lastText rows "Executed_Gtid_Set") with
      ⟨sets, hsets⟩ | hsets
    · exact ⟨_, _, .complete h hposition hsets⟩
    · exact ⟨_, _, .noTransactions h hposition hsets⟩
  · exact ⟨_, _, .noPosition h hposition⟩

theorem derives_iff : Derives rows samples complete ↔
    (harvest rows).samples = samples ∧ (harvest rows).fault.isNone = complete := by
  refine ⟨Derives.harvest_eq, ?_⟩
  rintro ⟨rfl, rfl⟩
  obtain ⟨samples, complete, h⟩ := exists_derives rows
  rwa [h.harvest_eq.1, h.harvest_eq.2]

/-- The reading ends early exactly if a part is malformed. -/
theorem fault_harvest (rows : RowSet) : (harvest rows).fault.isNone = false ↔
    IsMisshapen rows ∨ MalformedPosition (lastText rows "File") (lastText rows "Position") ∨
      MalformedTransactions (lastText rows "Executed_Gtid_Set") := by
  constructor
  · intro hfault
    obtain ⟨samples, complete, h⟩ := exists_derives rows
    rw [h.harvest_eq.2] at hfault
    cases h with
    | misshapen h => exact .inl h
    | noPosition h hposition => exact .inr (.inl hposition)
    | noTransactions h hposition hsets => exact .inr (.inr hsets)
    | complete h hposition hsets => cases hfault
  · intro hwrong
    by_cases h : IsMisshapen rows
    · exact (Derives.misshapen h).harvest_eq.2
    rcases givesPosition_or_malformed (lastText rows "File") (lastText rows "Position") with
      ⟨pair, hposition⟩ | hposition
    · rcases hwrong with hwrong | hwrong | hwrong
      · exact absurd hwrong h
      · obtain ⟨e, he⟩ := hwrong.position_eq
        rw [hposition.position_eq] at he
        cases congrArg Harvest.fault he
      · exact (Derives.noTransactions h hposition hwrong).harvest_eq.2
    · exact (Derives.noPosition h hposition).harvest_eq.2

/-- Only the columns and the last row count. -/
theorem harvest_congr {rows' : RowSet} (hcolumns : rows.columns = rows'.columns)
    (hlast : rows.cells.getLast? = rows'.cells.getLast?) : harvest rows = harvest rows' := by
  have htext (column : String) : lastText rows column = lastText rows' column := by
    rw [lastText, lastText, RowSet.rows, RowSet.rows, List.getLast?_map, List.getLast?_map,
      hcolumns, hlast]
  have hnone : rows.cells = [] ↔ rows'.cells = [] := by
    rw [← List.getLast?_eq_none_iff, hlast, List.getLast?_eq_none_iff]
  simp only [harvest, htext, hcolumns, ne_eq, hnone]

end Rows

/-! ## Pairs of transactions -/

/-- The sample of the first transaction of an entry. -/
def firstSample (s : TransactionSet) : Sample :=
  .of firstTransaction .gauge (Decimal.ofNatural64 s.first) [s.server]

/-- The sample of the last transaction of an entry. -/
def lastSample (s : TransactionSet) : Sample :=
  .of lastTransaction .gauge (Decimal.ofNatural64 s.last) [s.server]

/-- Samples in pairs: perhaps one of a file and a position, and then one for each of the entries. So
there are as many first transactions as last ones, of the same entries in the same order. -/
structure Paired (samples : List Sample) (sets : List TransactionSet) : Prop where
  pairs : ∃ pair, (pair = [] ∨ ∃ n p, pair = positionPair n p) ∧
    samples = pair ++ sets.flatMap bounds
  first : Family.group samples firstTransaction.name = sets.map firstSample
  last : Family.group samples lastTransaction.name = sets.map lastSample

theorem group_append_bounds {pair : List Sample} {name : String}
    (h : ∀ t ∈ pair, t.name ≠ name) (sets : List TransactionSet) :
    Family.group (pair ++ sets.flatMap bounds) name =
      sets.flatMap fun s => Family.group (bounds s) name := by
  have hnil : Family.group pair name = [] :=
    List.filter_eq_nil_iff.mpr fun t ht => by simpa using h t ht
  rw [Family.group, List.filter_append, ← Family.group, hnil, List.nil_append,
    List.filter_flatMap]
  rfl

theorem paired_append {pair : List Sample} (h : pair = [] ∨ ∃ n p, pair = positionPair n p)
    (sets : List TransactionSet) : Paired (pair ++ sets.flatMap bounds) sets := by
  have hpair : ∀ t ∈ pair, t.name ≠ firstTransaction.name ∧ t.name ≠ lastTransaction.name := by
    rcases h with rfl | ⟨n, p, rfl⟩
    · exact fun t ht => by cases ht
    · have hnames : ∀ d ∈ [fileNumber, filePosition],
          d.name ≠ firstTransaction.name ∧ d.name ≠ lastTransaction.name := by decide
      intro t ht
      simp only [positionPair, List.mem_cons, List.not_mem_nil, or_false] at ht
      rcases ht with rfl | rfl
      · exact hnames fileNumber (by simp)
      · exact hnames filePosition (by simp)
  have hne : lastTransaction.name ≠ firstTransaction.name := by decide
  refine ⟨⟨pair, h, rfl⟩, ?_, ?_⟩
  · rw [group_append_bounds fun t ht => (hpair t ht).1, List.map_eq_flatMap]
    refine congrArg sets.flatMap (funext fun s => ?_)
    simp [Family.group, bounds, firstSample, Sample.name, Sample.of, hne]
  · rw [group_append_bounds fun t ht => (hpair t ht).2, List.map_eq_flatMap]
    refine congrArg sets.flatMap (funext fun s => ?_)
    simp [Family.group, bounds, lastSample, Sample.name, Sample.of, hne.symm]

theorem GivesPosition.eq_nil_or {file offset : String} {pair : List Sample}
    (h : GivesPosition file offset pair) : pair = [] ∨ ∃ n p, pair = positionPair n p := by
  cases h with
  | off => exact .inl rfl
  | on => exact .inr ⟨_, _, rfl⟩

/-- What is derived is in pairs, of the entries given or, if the reading ends early, of none. -/
theorem Derives.paired {rows : RowSet} {samples : List Sample} {complete : Bool}
    (h : Derives rows samples complete) : ∃ sets, Paired samples sets ∧
      if complete then GivesTransactions (lastText rows "Executed_Gtid_Set") sets
      else sets = [] := by
  cases h with
  | misshapen | noPosition => exact ⟨[], paired_append (.inl rfl) [], rfl⟩
  | noTransactions h hposition hsets =>
    exact ⟨[], by simpa using paired_append hposition.eq_nil_or [], rfl⟩
  | @complete pair sets h hposition hsets =>
    exact ⟨sets, paired_append hposition.eq_nil_or sets, hsets⟩

/-! ## The entries that are shown -/

/-- The entries that are the first ones of their servers. -/
def leadingSets : List TransactionSet → List TransactionSet
  | [] => []
  | s :: rest => s :: (leadingSets rest).filter fun t => t.server ≠ s.server

/-- An entry is shown exactly if no entry of the same server stands before it. -/
theorem mem_leadingSets {s : TransactionSet} {sets : List TransactionSet} :
    s ∈ leadingSets sets ↔
      ∃ before after, sets = before ++ s :: after ∧ ∀ t ∈ before, s.server ≠ t.server := by
  induction sets with
  | nil => simp [leadingSets]
  | cons t rest ih =>
    rw [leadingSets, List.mem_cons, List.mem_filter, ih]
    constructor
    · rintro (rfl | ⟨⟨before, after, rfl, hbefore⟩, hne⟩)
      · exact ⟨[], rest, rfl, by simp⟩
      · exact ⟨t :: before, after, rfl, List.forall_mem_cons.mpr ⟨by simpa using hne, hbefore⟩⟩
    · rintro ⟨_ | ⟨u, before⟩, after, hsets, hbefore⟩
      · cases hsets
        exact .inl rfl
      · cases hsets
        obtain ⟨hne, hbefore⟩ := List.forall_mem_cons.mp hbefore
        exact .inr ⟨⟨before, after, rfl, hbefore⟩, by simpa using hne⟩

theorem nodup_servers_leadingSets (sets : List TransactionSet) :
    ((leadingSets sets).map TransactionSet.server).Nodup := by
  induction sets with
  | nil => exact List.nodup_nil
  | cons s rest ih =>
    rw [leadingSets, List.map_cons, List.nodup_cons]
    refine ⟨fun hmem => ?_, (List.filter_sublist.map _).nodup ih⟩
    obtain ⟨t, ht, hserver⟩ := List.mem_map.mp hmem
    exact of_decide_eq_true (List.mem_filter.mp ht).2 hserver

section Shown

variable {f : TransactionSet → Sample}

/-- Samples labelled with the servers are distinct where the entries are the leading ones. -/
theorem distinct_map (hlabels : ∀ s, (f s).labels = [s.server]) (sets : List TransactionSet) :
    Family.distinct (sets.map f) = (leadingSets sets).map f := by
  induction sets with
  | nil => rfl
  | cons s rest ih =>
    rw [List.map_cons, Family.distinct, ih, leadingSets, List.map_cons, List.filter_map]
    refine congrArg (f s :: ·) (congrArg (List.map f) (List.filter_congr fun t _ => ?_))
    simp [hlabels]

/-- If the samples of a name are those of some entries, its family shows the leading ones. -/
theorem seriesOf_perm_leadingSets {samples : List Sample} (h : Family.Regular samples)
    {name : String} {sets : List TransactionSet} (hgroup : Family.group samples name = sets.map f)
    (hlabels : ∀ s, (f s).labels = [s.server]) (hagree : ∀ s t, Family.agrees (f s) (f t) = true) :
    (Family.seriesOf (Family.ofSamples samples) name).Perm
      ((leadingSets sets).map fun s => (f s).series) := by
  have hleading : Family.leading samples name = (leadingSets sets).map f := by
    rw [Family.leading, hgroup]
    cases sets with
    | nil => rfl
    | cons s rest =>
      rw [List.map_cons]
      simp only
      rw [← List.map_cons, distinct_map hlabels]
      refine List.filter_eq_self.mpr fun t ht => ?_
      obtain ⟨u, -, rfl⟩ := List.mem_map.mp ht
      exact hagree s u
  have hshown := (h.seriesOf_perm_iff name).mpr
  rw [hleading, List.map_map, List.map_map] at hshown
  refine hshown ?_
  -- With a single label the key of a sample is the server itself, and each stands there once.
  have hkey : (fun t : Sample => Entry.key t.labels) ∘ f = TransactionSet.server := by
    funext s
    simp [hlabels, Entry.key, String.join]
  rw [hkey]
  exact nodup_servers_leadingSets sets

/-- Of samples in pairs both families show the leading entries. -/
theorem Paired.seriesOf_perm {samples : List Sample} {sets : List TransactionSet}
    (h : Paired samples sets) (hregular : Family.Regular samples) :
    (Family.seriesOf (Family.ofSamples samples) firstTransaction.name).Perm
        ((leadingSets sets).map fun s => ⟨[("executed_server_id", s.server)],
          .single (Decimal.ofNatural64 s.first)⟩) ∧
      (Family.seriesOf (Family.ofSamples samples) lastTransaction.name).Perm
        ((leadingSets sets).map fun s => ⟨[("executed_server_id", s.server)],
          .single (Decimal.ofNatural64 s.last)⟩) := by
  have hfirst (s : TransactionSet) : (firstSample s).series =
      ⟨[("executed_server_id", s.server)], .single (Decimal.ofNatural64 s.first)⟩ := by
    simp [firstSample, firstTransaction, Sample.series, Entry.series, Entry.ofSample, Sample.of,
      Descriptor.of]
  have hlast (s : TransactionSet) : (lastSample s).series =
      ⟨[("executed_server_id", s.server)], .single (Decimal.ofNatural64 s.last)⟩ := by
    simp [lastSample, lastTransaction, Sample.series, Entry.series, Entry.ofSample, Sample.of,
      Descriptor.of]
  simp only [← hfirst, ← hlast]
  exact ⟨seriesOf_perm_leadingSets hregular h.first (fun _ => rfl) fun _ _ => by
      simp [Family.agrees, firstSample, Sample.of],
    seriesOf_perm_leadingSets hregular h.last (fun _ => rfl) fun _ _ => by
      simp [Family.agrees, lastSample, Sample.of]⟩

end Shown

/-! ## The run of the collector -/

section Run

variable {server : Server} {log : Log} {rows : RowSet}

/-- The collector brings in what the rows derive that it obtains. -/
theorem derives_iff_outcome (h : Fetch.Obtains server log Collector.binaryLog.attempts rows)
    (now : Duration) (samples : List Sample) (complete : Bool) :
    Derives rows samples complete ↔
      (Collector.binaryLog.collect server none log now).outcome.samples = samples ∧
        (Collector.binaryLog.collect server none log now).outcome.succeeded = complete := by
  rw [Collector.outcome_of_obtains h now]
  exact derives_iff

/-- The collector fails exactly if both queries are refused or a part of the rows is malformed. -/
theorem succeeded_eq_false_iff (server : Server) (log : Log) (now : Duration) :
    (Collector.binaryLog.collect server none log now).outcome.succeeded = false ↔
      Fetch.Refuses server log Collector.binaryLog.attempts ∨
        ∃ rows, Fetch.Obtains server log Collector.binaryLog.attempts rows ∧
          (IsMisshapen rows ∨ MalformedPosition (lastText rows "File") (lastText rows "Position") ∨
            MalformedTransactions (lastText rows "Executed_Gtid_Set")) := by
  rcases Fetch.obtains_or_refuses server log Collector.binaryLog.attempts with ⟨rows, h⟩ | h
  · have houtcome : (Collector.binaryLog.collect server none log now).outcome =
        .finished (harvest rows) := Collector.outcome_of_obtains h now
    rw [houtcome, Collector.Outcome.succeeded, fault_harvest]
    constructor
    · exact fun hwrong => .inr ⟨rows, h, hwrong⟩
    · rintro (hrefuses | ⟨rows', h', hwrong⟩)
      · exact absurd hrefuses h.not_refuses
      · rwa [h'.unique h] at hwrong
  · obtain ⟨e, he⟩ := Collector.outcome_of_refuses h now
    rw [he]
    exact ⟨fun _ => .inl h, fun _ => rfl⟩

/-- What the collector brings in is in pairs, of the entries of the rows that it obtains or, if it
fails, of none. -/
theorem exists_paired (server : Server) (log : Log) (now : Duration) :
    ∃ sets, Paired (Collector.binaryLog.collect server none log now).outcome.samples sets ∧
      if (Collector.binaryLog.collect server none log now).outcome.succeeded then
        ∃ rows, Fetch.Obtains server log Collector.binaryLog.attempts rows ∧
          GivesTransactions (lastText rows "Executed_Gtid_Set") sets
      else sets = [] := by
  rcases Fetch.obtains_or_refuses server log Collector.binaryLog.attempts with ⟨rows, h⟩ | h
  · obtain ⟨samples, complete, hderives⟩ := exists_derives rows
    obtain ⟨hsamples, hcomplete⟩ := (derives_iff_outcome h now samples complete).mp hderives
    obtain ⟨sets, hpaired, hsets⟩ := hderives.paired
    rw [hsamples, hcomplete]
    refine ⟨sets, hpaired, ?_⟩
    cases complete with
    | true => exact ⟨rows, h, hsets⟩
    | false => exact hsets
  · obtain ⟨e, he⟩ := Collector.outcome_of_refuses h now
    rw [he]
    exact ⟨[], paired_append (.inl rfl) [], rfl⟩

end Run

end MysqlMetrics.BinaryLog
