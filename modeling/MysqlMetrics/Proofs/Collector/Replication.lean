import MysqlMetrics.Proofs.Collector.Fallback
import MysqlMetrics.Proofs.Gtid.Grammar
import MysqlMetrics.Proofs.Status.LogFile

/-!
# What the state of replication gives

The rows of the state are read cell by cell, row after row. What a cell gives depends on its column
and its text and, for the labels, on the other cells of its row; a malformed cell gives nothing and
ends the reading, with the samples of the cells before it kept.

* `IsSource`: the source of a row, which all samples of the row are labelled with.
* `Gives`, `Malformed`: what one cell gives, and which cells are malformed.
* `Derives`: the samples of a list of cells, read up to the first malformed one.
* `Collector.collect_replication`: the collector brings in exactly these samples.
-/

namespace MysqlMetrics

open MysqlMetrics.Text

/-! ## Harvests in sequence -/

namespace Harvest

theorem andThen_assoc (a b c : Harvest) : (a.andThen b).andThen c = a.andThen (b.andThen c) := by
  cases ha : a.fault with
  | some e => simp [andThen, ha]
  | none =>
    cases hb : b.fault with
    | some e => simp [andThen, ha, hb]
    | none => simp [andThen, ha, hb]

theorem sequence_append (as bs : List Harvest) :
    sequence (as ++ bs) = (sequence as).andThen (sequence bs) := by
  induction as with
  | nil => rfl
  | cons a rest ih => rw [List.cons_append, sequence, ih, sequence, andThen_assoc]

theorem sequence_flatten (hss : List (List Harvest)) :
    sequence hss.flatten = sequence (hss.map sequence) := by
  induction hss with
  | nil => rfl
  | cons hs rest ih => rw [List.flatten_cons, sequence_append, ih, List.map_cons, sequence]

end Harvest

namespace Replication

/-! ## The source of a row -/

/-- `value` is the first value that the row has for one of the names; the empty text if it has
none. -/
inductive IsFirst (row : Row) : List String → String → Prop
  | none : IsFirst row [] ""
  | here {name value : String} {rest : List String} (h : row.get? name = some value) :
      IsFirst row (name :: rest) value
  | later {name value : String} {rest : List String} (h : row.get? name = .none)
      (hrest : IsFirst row rest value) : IsFirst row (name :: rest) value

/-- The row is about this source. -/
structure IsSource (row : Row) (source : Context) : Prop where
  host : IsFirst row ["Master_Host", "Source_Host"] source.host
  uuid : IsFirst row ["Master_UUID", "Source_UUID"] source.uuid
  channel : IsFirst row ["Channel_Name"] source.channel
  connection : IsFirst row ["Connection_name"] source.connection

theorem isFirst_iff {row : Row} {names : List String} {value : String} :
    IsFirst row names value ↔ row.getOrEmpty names = value := by
  constructor
  · intro h
    induction h with
    | none => rfl
    | here h => simp [Row.getOrEmpty, h]
    | later h _ ih => simpa [Row.getOrEmpty, h] using ih
  · rintro rfl
    induction names with
    | nil => exact .none
    | cons name rest ih =>
      cases h : row.get? name with
      | none =>
        refine .later h ?_
        simpa [Row.getOrEmpty, h] using ih
      | some value =>
        have : row.getOrEmpty (name :: rest) = value := by simp [Row.getOrEmpty, h]
        exact this ▸ .here h

/-- Every row has one source. -/
theorem isSource_iff {row : Row} {source : Context} : IsSource row source ↔ Context.of row = source := by
  constructor
  · rintro ⟨hhost, huuid, hchannel, hconnection⟩
    rw [isFirst_iff] at hhost huuid hchannel hconnection
    simp only [Context.of, hhost, huuid, hchannel, hconnection]
  · rintro rfl
    exact ⟨isFirst_iff.mpr rfl, isFirst_iff.mpr rfl, isFirst_iff.mpr rfl, isFirst_iff.mpr rfl⟩

/-! ## Cells -/

/-- A cell in its row; NULL is the empty text. -/
structure Cell where
  row : Row
  column : String
  text : String

/-- The cells of a result set, row after row and column after column. -/
def cells (rows : RowSet) : List Cell :=
  rows.rows.flatMap fun row => row.pairs.map fun pair => ⟨row, pair.1, pair.2.getD ""⟩

namespace Cell

/-- The text is empty or blank. -/
def IsBlank (c : Cell) : Prop := ∀ a ∈ c.text.toList, isBlank a = true

/-- The column is a status value. -/
def IsStatus (c : Cell) : Prop :=
  c.column ∉ labelColumns ∧ c.column ≠ transactionsColumn ∧ c.column ∉ logFileColumns

end Cell

/-- What a cell gives: nothing for a label, a blank set of transactions, a log file without a name
and a status that is not recognised; two samples for each set of transactions, in order; one sample
for a log file and for a status. -/
inductive Gives : Cell → List Sample → Prop
  | label {c : Cell} (hcolumn : c.column ∈ labelColumns) : Gives c []
  | noTransactions {c : Cell} (hcolumn : c.column = transactionsColumn) (hblank : c.IsBlank) :
      Gives c []
  | transactions {c : Cell} {source : Context} {sets : List TransactionSet}
      (hcolumn : c.column = transactionsColumn) (hblank : ¬c.IsBlank)
      (hsource : IsSource c.row source) (hsets : Gtid.Writes c.text.toList sets) :
      Gives c (sets.flatMap (bounds source))
  | noFile {c : Cell} (hcolumn : c.column ∈ logFileColumns) (hempty : c.text = "") : Gives c []
  | file {c : Cell} {source : Context} {n : Nat} (hcolumn : c.column ∈ logFileColumns)
      (hempty : c.text ≠ "") (hsource : IsSource c.row source)
      (hnumber : LogFile.IsNumbered c.text.toList n) :
      Gives c [.of (fileNumber c.column) .untyped (Decimal.ofNatural64 n) source.labels]
  | value {c : Cell} {source : Context} {x : Float} (hcolumn : c.IsStatus)
      (hsource : IsSource c.row source) (hvalue : Status.value? c.text.toList = some x) :
      Gives c [.of (status c.column) .untyped x source.labels]
  | noValue {c : Cell} (hcolumn : c.IsStatus) (hvalue : Status.value? c.text.toList = none) :
      Gives c []

/-- A cell that ends the reading: what should be a set of transactions or the name of a log file is
neither empty nor well formed. -/
inductive Malformed : Cell → Prop
  | transactions {c : Cell} (hcolumn : c.column = transactionsColumn) (hblank : ¬c.IsBlank)
      (hsets : ¬∃ sets, Gtid.Writes c.text.toList sets) : Malformed c
  | file {c : Cell} (hcolumn : c.column ∈ logFileColumns) (hempty : c.text ≠ "")
      (hnumber : ¬∃ n, LogFile.IsNumbered c.text.toList n) : Malformed c

/-- The samples of a list of cells and whether all of them were read: a malformed cell gives no
sample, and the cells behind it are not read. -/
inductive Derives : List Cell → List Sample → Bool → Prop
  | done : Derives [] [] true
  | cell {c : Cell} {rest : List Cell} {samples more : List Sample} {complete : Bool}
      (h : Gives c samples) (hrest : Derives rest more complete) :
      Derives (c :: rest) (samples ++ more) complete
  | cut {c : Cell} {rest : List Cell} (h : Malformed c) : Derives (c :: rest) [] false

/-! ## What a cell brings in -/

namespace Cell

variable {c : Cell}

/-- What the collector brings in from a cell. -/
def harvest (c : Cell) : Harvest := Replication.cell (.of c.row) c.column (some c.text)

theorem harvest_label (h : c.column ∈ labelColumns) : c.harvest = .empty := if_pos h

theorem harvest_transactions (h : c.column = transactionsColumn) :
    c.harvest = Replication.transactions (.of c.row) c.text := by
  have hlabel : transactionsColumn ∉ labelColumns := by decide
  rw [harvest, Replication.cell, h, if_neg hlabel, if_pos rfl]
  rfl

theorem harvest_logFile (h : c.column ∈ logFileColumns) :
    c.harvest = Replication.logFile (.of c.row) c.column c.text := by
  have hother : ∀ column ∈ logFileColumns, column ∉ labelColumns ∧ column ≠ transactionsColumn := by
    decide
  obtain ⟨hlabel, htransactions⟩ := hother c.column h
  rw [harvest, Replication.cell, if_neg hlabel, if_neg htransactions, if_pos h]
  rfl

theorem harvest_status (h : c.IsStatus) :
    c.harvest = statusValue (.of c.row) c.column c.text := by
  rw [harvest, Replication.cell, if_neg h.1, if_neg h.2.1, if_neg h.2.2]
  rfl

/-- The four kinds of columns. -/
theorem kind (c : Cell) : c.column ∈ labelColumns ∨ c.column = transactionsColumn ∨
    c.column ∈ logFileColumns ∨ c.IsStatus := by
  unfold IsStatus
  tauto

end Cell

section

variable {c : Cell} {samples : List Sample}

theorem Gives.harvest_eq (h : Gives c samples) : c.harvest = .of samples := by
  cases h with
  | label hcolumn => exact Cell.harvest_label hcolumn
  | noTransactions hcolumn hblank =>
    rw [Cell.harvest_transactions hcolumn, Replication.transactions,
      if_pos (trim_eq_nil_iff.mpr hblank)]
    rfl
  | transactions hcolumn hblank hsource hsets =>
    rw [Cell.harvest_transactions hcolumn, Replication.transactions,
      if_neg (mt trim_eq_nil_iff.mp hblank), Gtid.read_eq_ok.mpr hsets, isSource_iff.mp hsource]
  | noFile hcolumn hempty =>
    rw [Cell.harvest_logFile hcolumn, logFile, if_pos hempty]
    rfl
  | file hcolumn hempty hsource hnumber =>
    rw [Cell.harvest_logFile hcolumn, logFile, if_neg hempty, LogFile.number_eq_ok.mpr hnumber,
      isSource_iff.mp hsource]
  | value hcolumn hsource hvalue =>
    rw [Cell.harvest_status hcolumn, statusValue, hvalue, isSource_iff.mp hsource]
  | noValue hcolumn hvalue =>
    rw [Cell.harvest_status hcolumn, statusValue, hvalue]
    rfl

theorem Malformed.harvest_eq (h : Malformed c) : ∃ e, c.harvest = .failed e := by
  cases h with
  | transactions hcolumn hblank hsets =>
    rw [Cell.harvest_transactions hcolumn, Replication.transactions,
      if_neg (mt trim_eq_nil_iff.mp hblank)]
    cases hread : Gtid.read c.text.toList with
    | ok sets => exact absurd ⟨sets, Gtid.read_eq_ok.mp hread⟩ hsets
    | error cause => exact ⟨_, rfl⟩
  | file hcolumn hempty hnumber =>
    rw [Cell.harvest_logFile hcolumn, logFile, if_neg hempty]
    cases hread : LogFile.number c.text.toList with
    | ok n => exact absurd ⟨n, LogFile.number_eq_ok.mp hread⟩ hnumber
    | error e => exact ⟨_, rfl⟩

/-- Every cell gives some samples or is malformed. -/
theorem gives_or_malformed (c : Cell) : (∃ samples, Gives c samples) ∨ Malformed c := by
  have hsource : IsSource c.row (.of c.row) := isSource_iff.mpr rfl
  rcases c.kind with hcolumn | hcolumn | hcolumn | hcolumn
  · exact .inl ⟨_, .label hcolumn⟩
  · by_cases hblank : c.IsBlank
    · exact .inl ⟨_, .noTransactions hcolumn hblank⟩
    by_cases hsets : ∃ sets, Gtid.Writes c.text.toList sets
    · obtain ⟨sets, hsets⟩ := hsets
      exact .inl ⟨_, .transactions hcolumn hblank hsource hsets⟩
    · exact .inr (.transactions hcolumn hblank hsets)
  · by_cases hempty : c.text = ""
    · exact .inl ⟨_, .noFile hcolumn hempty⟩
    by_cases hnumber : ∃ n, LogFile.IsNumbered c.text.toList n
    · obtain ⟨n, hnumber⟩ := hnumber
      exact .inl ⟨_, .file hcolumn hempty hsource hnumber⟩
    · exact .inr (.file hcolumn hempty hnumber)
  · cases hvalue : Status.value? c.text.toList with
    | none => exact .inl ⟨_, .noValue hcolumn hvalue⟩
    | some x => exact .inl ⟨_, .value hcolumn hsource hvalue⟩

theorem Gives.not_malformed (h : Gives c samples) : ¬Malformed c := by
  intro hmalformed
  obtain ⟨e, he⟩ := hmalformed.harvest_eq
  rw [h.harvest_eq] at he
  cases congrArg Harvest.fault he

end

/-! ## What the cells bring in -/

/-- A list of cells brings in the samples that it derives, and ends without a fault if all cells were
read. -/
theorem Derives.harvest_eq {cs : List Cell} {samples : List Sample} {complete : Bool}
    (h : Derives cs samples complete) :
    (Harvest.sequence (cs.map Cell.harvest)).samples = samples ∧
      (Harvest.sequence (cs.map Cell.harvest)).fault.isNone = complete := by
  induction h with
  | done => exact ⟨rfl, rfl⟩
  | cell h _ ih =>
    rw [List.map_cons, Harvest.sequence, h.harvest_eq]
    exact ⟨congrArg _ ih.1, ih.2⟩
  | cut h =>
    obtain ⟨e, he⟩ := h.harvest_eq
    rw [List.map_cons, Harvest.sequence, he]
    exact ⟨rfl, rfl⟩

/-- Every list of cells derives some samples, and is read to its end unless a cell is malformed. -/
theorem exists_derives (cs : List Cell) :
    ∃ samples complete, Derives cs samples complete ∧
      (complete = false ↔ ∃ c ∈ cs, Malformed c) := by
  induction cs with
  | nil => exact ⟨[], true, .done, by simp⟩
  | cons c rest ih =>
    obtain ⟨more, complete, hrest, hcomplete⟩ := ih
    rcases gives_or_malformed c with ⟨samples, h⟩ | h
    · exact ⟨samples ++ more, complete, .cell h hrest, by simp [hcomplete, h.not_malformed]⟩
    · exact ⟨[], false, .cut h, by simp [h]⟩

theorem derives_iff {cs : List Cell} {samples : List Sample} {complete : Bool} :
    Derives cs samples complete ↔
      (Harvest.sequence (cs.map Cell.harvest)).samples = samples ∧
        (Harvest.sequence (cs.map Cell.harvest)).fault.isNone = complete := by
  refine ⟨Derives.harvest_eq, ?_⟩
  rintro ⟨rfl, rfl⟩
  obtain ⟨samples, complete, h, -⟩ := exists_derives cs
  rwa [h.harvest_eq.1, h.harvest_eq.2]

/-- The harvest of a result set is that of its cells in sequence. -/
theorem harvest_eq (rows : RowSet) :
    harvest rows = .sequence ((cells rows).map Cell.harvest) := by
  have hrow (r : Row) : row r = .sequence
      ((r.pairs.map fun pair => (⟨r, pair.1, pair.2.getD ""⟩ : Cell)).map Cell.harvest) := by
    rw [List.map_map]
    rfl
  rw [harvest, cells, List.flatMap_def, List.map_flatten, Harvest.sequence_flatten]
  rw [List.map_map, List.map_map]
  exact congrArg _ (List.map_congr_left fun r _ => hrow r)

end Replication

namespace Collector

open Replication

/-- **The state of replication, cell by cell.** The collector brings in what the cells of the rows
give that it obtains, row after row and column after column, up to the first malformed cell, which
gives nothing. It fails exactly if the server refuses all its queries, and then it brings in nothing,
or if a cell is malformed. -/
theorem collect_replication (server : Server) (log : Log) (now : Duration) :
    (∀ rows, Fetch.Obtains server log replication.attempts rows → ∀ samples complete,
      Derives (cells rows) samples complete ↔
        (replication.collect server none log now).outcome.samples = samples ∧
          (replication.collect server none log now).outcome.succeeded = complete) ∧
    (Fetch.Refuses server log replication.attempts →
      (replication.collect server none log now).outcome.samples = []) ∧
    ((replication.collect server none log now).outcome.succeeded = false ↔
      Fetch.Refuses server log replication.attempts ∨
        ∃ rows, Fetch.Obtains server log replication.attempts rows ∧
          ∃ c ∈ cells rows, Malformed c) := by
  have hderives (rows : RowSet) (h : Fetch.Obtains server log replication.attempts rows)
      (samples : List Sample) (complete : Bool) :
      Derives (cells rows) samples complete ↔
        (replication.collect server none log now).outcome.samples = samples ∧
          (replication.collect server none log now).outcome.succeeded = complete := by
    rw [outcome_of_obtains h now, derives_iff, ← harvest_eq]
    rfl
  refine ⟨hderives, ?_, ?_⟩
  · intro h
    obtain ⟨e, he⟩ := outcome_of_refuses h now
    rw [he]
    rfl
  · rcases Fetch.obtains_or_refuses server log replication.attempts with ⟨rows, h⟩ | h
    · obtain ⟨samples, complete, hsamples, hcomplete⟩ := exists_derives (cells rows)
      rw [((hderives rows h samples complete).mp hsamples).2, hcomplete]
      have hunique (rows' : RowSet) (h' : Fetch.Obtains server log replication.attempts rows') :
          rows' = rows := h'.unique h
      have hnot : ¬Fetch.Refuses server log replication.attempts := h.not_refuses
      constructor
      · exact fun hmalformed => .inr ⟨rows, h, hmalformed⟩
      · rintro (hrefuses | ⟨rows', h', hmalformed⟩)
        · exact absurd hrefuses hnot
        · rwa [hunique rows' h'] at hmalformed
    · obtain ⟨e, he⟩ := outcome_of_refuses h now
      rw [he]
      exact ⟨fun _ => .inl h, fun _ => rfl⟩

/-- One row with a running thread and a malformed set of transactions behind it. -/
def halfMalformed : RowSet where
  columns := ["Slave_IO_Running", "Executed_Gtid_Set"]
  cells := [[some "Yes", some "a:1-5-6"]]

theorem collect_replication_halfMalformed :
    let server : Server := .ofReplies fun sql =>
      if sql = "SHOW SLAVE STATUS" then [{ result := .ok halfMalformed }] else []
    let outcome := (replication.collect server none [] ⟨0⟩).outcome
    outcome.samples = [.of (status "Slave_IO_Running") .untyped 1 ["", "", "", ""]] ∧
      outcome.succeeded = false := by
  intro server outcome
  have hobtains : Fetch.Obtains server [] replication.attempts halfMalformed :=
    .later rfl (.later rfl (.later rfl (.later rfl (.here rfl))))
  let row : Row := ⟨["Slave_IO_Running", "Executed_Gtid_Set"], [some "Yes", some "a:1-5-6"]⟩
  have hcells : cells halfMalformed =
      [⟨row, "Slave_IO_Running", "Yes"⟩, ⟨row, "Executed_Gtid_Set", "a:1-5-6"⟩] := rfl
  have hmalformed : Malformed ⟨row, "Executed_Gtid_Set", "a:1-5-6"⟩ := by
    refine .transactions rfl (fun hblank => ?_) ?_
    · have : isBlank 'a' = true := hblank 'a' (by simp)
      exact absurd this (by decide)
    · rintro ⟨sets, hsets⟩
      have hread : Gtid.read "a:1-5-6".toList = .error (.tooManyBounds "a:1-5-6" "1-5-6") := rfl
      rw [Gtid.read_eq_ok.mpr hsets] at hread
      cases hread
  have hvalue : Status.value? "Yes".toList = some 1 := by
    simp [Status.value?, Status.keyword?, Status.onWords]
  have hstatus : Gives ⟨row, "Slave_IO_Running", "Yes"⟩
      [.of (status "Slave_IO_Running") .untyped 1 ["", "", "", ""]] :=
    .value ⟨by decide, by decide, by decide⟩ (isSource_iff.mpr rfl) hvalue
  refine ((collect_replication server [] ⟨0⟩).1 halfMalformed hobtains _ false).mp ?_
  rw [hcells]
  exact .cell hstatus (.cut hmalformed)

end Collector

end MysqlMetrics
