import MysqlMetrics.Proofs.Collector.Timing
import Mathlib.Data.List.Forall2
import Mathlib.Data.List.ReduceOption

/-!
# What the accounts give

The table of accounts holds passwords and certificates beside the privileges and limits that are
exported. Its columns are not known beforehand, so what is public is told by a column's name; two
tables that agree in their public columns can not be told apart by what is collected from them.

* `AgreeInPublic`: two rows that may differ in secrets only (`harvest_congr`).
* `Gives`: what one cell gives, and nothing else (`forall₂_gives_iff`).
* `Collector.collect_accounts`: the collector reveals nothing but privileges and limits.
-/

namespace MysqlMetrics

namespace Accounts

/-! ## Secrets -/

/-- A column that samples are made of: the account's name and host, a privilege or a limit. -/
def IsPublic (column : String) : Prop :=
  column = "User" ∨ column = "Host" ∨ isPrivilege column = true ∨ isLimit column = true

/-- Rows of the same columns with the same cells in the public ones. The other cells may differ, and
so may those without a column. -/
structure AgreeInPublic (row row' : Row) : Prop where
  columns : row.columns = row'.columns
  cells : ∀ i column, row.columns[i]? = some column → IsPublic column → row.cell? i = row'.cell? i

section Agree

variable {row row' : Row}

theorem value?_of_not_isPublic {column : String} (h : ¬IsPublic column) (text : String) :
    value? column text = none := by
  have hprivilege : ¬isPrivilege column = true := fun hp => h (.inr (.inr (.inl hp)))
  have hlimit : ¬isLimit column = true := fun hl => h (.inr (.inr (.inr hl)))
  rw [value?, if_neg hprivilege, if_neg hlimit]

theorem labels_eq (row : Row) :
    labels row = [(row.get? "User").getD "", (row.get? "Host").getD ""] := by
  have hone (name : String) : row.getOrEmpty [name] = (row.get? name).getD "" := by
    cases h : row.get? name <;> simp [Row.getOrEmpty, h]
  rw [labels, hone, hone]

theorem AgreeInPublic.get?_eq (h : AgreeInPublic row row') {name : String} (hname : IsPublic name) :
    row.get? name = row'.get? name := by
  rw [Row.get?_eq, Row.get?_eq, ← h.columns]
  cases hi : row.columns.idxOf? name with
  | none => rfl
  | some i =>
    obtain ⟨hlt, hcolumn, -⟩ := List.findIdx?_eq_some_iff_getElem.mp hi
    refine h.cells i name ?_ hname
    rw [List.getElem?_eq_getElem hlt, eq_of_beq hcolumn]

theorem AgreeInPublic.labels_congr (h : AgreeInPublic row row') : labels row = labels row' := by
  have huser : row.get? "User" = row'.get? "User" := h.get?_eq (.inl rfl)
  have hhost : row.get? "Host" = row'.get? "Host" := h.get?_eq (.inr (.inl rfl))
  rw [labels_eq, labels_eq, huser, hhost]

theorem AgreeInPublic.samples_congr (h : AgreeInPublic row row') : samples row = samples row' := by
  rw [samples, samples, Row.pairs, Row.pairs, ← h.columns, ← h.labels_congr,
    List.mapIdx_eq_zipIdx_map, List.mapIdx_eq_zipIdx_map, List.filterMap_map, List.filterMap_map]
  refine List.filterMap_congr fun pair hmem => ?_
  obtain ⟨column, i⟩ := pair
  have hcolumn : row.columns[i]? = some column := List.mem_zipIdx_iff_getElem?.mp hmem
  by_cases hpublic : IsPublic column
  · simp only [Function.comp, h.cells i column hcolumn hpublic]
  · simp only [Function.comp, value?_of_not_isPublic hpublic, Option.map_none]

end Agree

/-- Secrets leave no trace in what is collected. -/
theorem harvest_congr {rows rows' : RowSet}
    (h : List.Forall₂ AgreeInPublic rows.rows rows'.rows) : harvest rows = harvest rows' := by
  have hsamples : rows.rows.map samples = rows'.rows.map samples := by
    generalize rows.rows = table, rows'.rows = table' at h
    induction h with
    | nil => rfl
    | cons hrow _ ih => rw [List.map_cons, List.map_cons, hrow.samples_congr, ih]
  rw [harvest, harvest, List.flatMap, List.flatMap, hsamples]

/-! ## Cells -/

/-- A cell in its row. -/
structure Cell where
  row : Row
  column : String
  value : Option String

/-- The cells of a result set, row after row and column after column. -/
def cells (rows : RowSet) : List Cell :=
  rows.rows.flatMap fun row => row.pairs.map fun pair => ⟨row, pair.1, pair.2⟩

/-- A sample of the cell's column, labelled with the user and the host of the cell's row. -/
def Cell.sample (c : Cell) (x : Float) : Sample :=
  .of (descriptor c.column) .gauge x [(c.row.get? "User").getD "", (c.row.get? "Host").getD ""]

/-- What a cell gives: a sample for a flag that is exactly `Y` or `N` and for a limit that can be
read, and nothing else. -/
inductive Gives : Cell → Option Sample → Prop
  | granted {c : Cell} (hcolumn : isPrivilege c.column = true) (hvalue : c.value = some "Y") :
      Gives c (some (c.sample 1))
  | withheld {c : Cell} (hcolumn : isPrivilege c.column = true) (hvalue : c.value = some "N") :
      Gives c (some (c.sample 0))
  | noFlag {c : Cell} (hcolumn : isPrivilege c.column = true) (hyes : c.value ≠ some "Y")
      (hno : c.value ≠ some "N") : Gives c none
  | limit {c : Cell} {x : Float} (hcolumn : isLimit c.column = true)
      (hvalue : Status.value? (c.value.getD "").toList = some x) : Gives c (some (c.sample x))
  | noLimit {c : Cell} (hcolumn : isLimit c.column = true)
      (hvalue : Status.value? (c.value.getD "").toList = none) : Gives c none
  | secret {c : Cell} (hprivilege : isPrivilege c.column = false)
      (hlimit : isLimit c.column = false) : Gives c none

/-- What a cell gives, by its value. -/
def Cell.given (c : Cell) : Option Sample := (value? c.column (c.value.getD "")).map c.sample

/-- No limit is named like a privilege. -/
theorem isPrivilege_eq_false_of_isLimit {column : String} (h : isLimit column = true) :
    isPrivilege column = false := by
  rw [isLimit, decide_eq_true_eq] at h
  have hlimits : ∀ name ∈ limitColumns, privilegeEnding.isSuffixOf name.toList = false := by decide
  have := hlimits _ h
  rwa [String.toList_ofList] at this

theorem Cell.gives_given (c : Cell) : Gives c c.given := by
  rcases hprivilege : isPrivilege c.column with _ | _
  · rcases hlimit : isLimit c.column with _ | _
    · have hgiven : c.given = none := by simp [given, value?, hprivilege, hlimit]
      exact hgiven ▸ .secret hprivilege hlimit
    · have hgiven : c.given = (Status.value? (c.value.getD "").toList).map c.sample := by
        simp [given, value?, hprivilege, hlimit]
      cases hvalue : Status.value? (c.value.getD "").toList with
      | none => simpa [hgiven, hvalue] using Gives.noLimit hlimit hvalue
      | some x => simpa [hgiven, hvalue] using Gives.limit hlimit hvalue
  · have hgiven : c.given = (Status.privilege? (c.value.getD "")).map c.sample := by
      simp [given, value?, hprivilege]
    by_cases hyes : c.value = some "Y"
    · simpa [hgiven, hyes, Status.privilege?] using Gives.granted hprivilege hyes
    by_cases hno : c.value = some "N"
    · simpa [hgiven, hno, Status.privilege?] using Gives.withheld hprivilege hno
    have hnone : Status.privilege? (c.value.getD "") = none := by
      cases hvalue : c.value with
      | none => rfl
      | some text =>
        rw [hvalue] at hyes hno
        have hy : text ≠ "Y" := fun h => hyes (congrArg some h)
        have hn : text ≠ "N" := fun h => hno (congrArg some h)
        simp only [Option.getD_some, Status.privilege?, if_neg hy, if_neg hn]
    simpa [hgiven, hnone] using Gives.noFlag hprivilege hyes hno

/-- A cell gives only one thing. -/
theorem Gives.eq_given {c : Cell} {given : Option Sample} (h : Gives c given) :
    c.given = given := by
  cases h with
  | granted hcolumn hvalue => simp [Cell.given, value?, hcolumn, hvalue, Status.privilege?]
  | withheld hcolumn hvalue => simp [Cell.given, value?, hcolumn, hvalue, Status.privilege?]
  | noFlag hcolumn hyes hno =>
    cases hvalue : c.value with
    | none => simp [Cell.given, value?, hcolumn, hvalue, Status.privilege?]
    | some text =>
      rw [hvalue, ne_eq, Option.some_inj] at hyes hno
      simp [Cell.given, value?, hcolumn, hvalue, Status.privilege?, hyes, hno]
  | limit hcolumn hvalue =>
    simp [Cell.given, value?, isPrivilege_eq_false_of_isLimit hcolumn, hcolumn, hvalue]
  | noLimit hcolumn hvalue =>
    simp [Cell.given, value?, isPrivilege_eq_false_of_isLimit hcolumn, hcolumn, hvalue]
  | secret hprivilege hlimit => simp [Cell.given, value?, hprivilege, hlimit]

theorem forall₂_gives_iff {cs : List Cell} {given : List (Option Sample)} :
    List.Forall₂ Gives cs given ↔ cs.map Cell.given = given := by
  constructor
  · intro h
    induction h with
    | nil => rfl
    | cons hcell _ ih => rw [List.map_cons, hcell.eq_given, ih]
  · rintro rfl
    exact List.forall₂_map_right_iff.mpr (List.forall₂_same.mpr fun c _ => c.gives_given)

theorem harvest_samples (rows : RowSet) :
    (harvest rows).samples = (cells rows).filterMap Cell.given := by
  rw [cells, List.filterMap_flatMap]
  refine congrArg rows.rows.flatMap (funext fun row => ?_)
  rw [samples, List.filterMap_map, labels_eq]
  rfl

end Accounts

namespace Collector

open Accounts

/-- The run of the collector on a table of accounts. -/
private theorem accounts_outcome_eq {server : Server} {log : Log} {rows : RowSet} (now : Duration)
    (h : (server.answer log Accounts.sql).result = .ok rows) :
    (accounts.collect server none log now).outcome = .finished (Accounts.harvest rows) := by
  rw [collect, Fetch.run, attempts, Fetch.firstSuccess_rows (Fetch.not_isMissed_none _ _) h]
  rfl

/-- **Nothing but privileges and limits.** From two tables of accounts that differ only in secrets,
the collector brings in the same samples in the same order, and it succeeds on both. The samples are
those that the cells give, one after another: a privilege is 1 or 0 by its flag, and every sample is
labelled with the user and the host of its row. -/
theorem collect_accounts {server server' : Server} {log log' : Log} {rows rows' : RowSet}
    (h : (server.answer log Accounts.sql).result = .ok rows)
    (h' : (server'.answer log' Accounts.sql).result = .ok rows')
    (hagree : List.Forall₂ AgreeInPublic rows.rows rows'.rows) (now now' : Duration) :
    let outcome := (accounts.collect server none log now).outcome
    outcome = (accounts.collect server' none log' now').outcome ∧ outcome.succeeded = true ∧
      ∃ given, List.Forall₂ Gives (cells rows) given ∧ outcome.samples = given.reduceOption := by
  intro outcome
  have houtcome : outcome = .finished (Accounts.harvest rows) := accounts_outcome_eq now h
  rw [houtcome, accounts_outcome_eq now' h', harvest_congr hagree]
  refine ⟨rfl, rfl, (cells rows).map Cell.given, forall₂_gives_iff.mpr rfl, ?_⟩
  rw [← harvest_congr hagree, List.reduceOption, List.filterMap_map]
  exact harvest_samples rows

/-- A table of one account with a hashed password, and with a cell behind the last column. -/
def hashedAccount (hash tail : String) : RowSet where
  columns := ["Host", "User", "Select_priv", "Password"]
  cells := [[some "%", some "app", some "Y", some hash, some tail]]

theorem collect_accounts_passwords :
    let server (hash tail : String) : Server := .ofReplies fun sql =>
      if sql = Accounts.sql then [{ result := .ok (hashedAccount hash tail) }] else []
    let outcome (hash tail : String) := (accounts.collect (server hash tail) none [] ⟨0⟩).outcome
    outcome "*94BDCEBE" "" = outcome "*2470C0C0" "Y" ∧ (outcome "*94BDCEBE" "").succeeded = true ∧
      (outcome "*94BDCEBE" "").samples =
        [.of (descriptor "Select_priv") .gauge 1 ["app", "%"]] := by
  intro server outcome
  have hagree : List.Forall₂ AgreeInPublic (hashedAccount "*94BDCEBE" "").rows
      (hashedAccount "*2470C0C0" "Y").rows := by
    refine .cons ⟨rfl, fun i column hcolumn hpublic => ?_⟩ .nil
    match i with
    | 0 | 1 | 2 => rfl
    | 3 =>
      cases hcolumn
      exact absurd hpublic (by unfold IsPublic; decide)
    | n + 4 => cases hcolumn
  have h : ((server "*94BDCEBE" "").answer [] Accounts.sql).result =
      .ok (hashedAccount "*94BDCEBE" "") := rfl
  have h' : ((server "*2470C0C0" "Y").answer [] Accounts.sql).result =
      .ok (hashedAccount "*2470C0C0" "Y") := rfl
  obtain ⟨heq, hsucceeded, given, hgives, hsamples⟩ := collect_accounts h h' hagree ⟨0⟩ ⟨0⟩
  refine ⟨heq, hsucceeded, hsamples.trans ?_⟩
  rw [← forall₂_gives_iff.mp hgives]
  rfl

end Collector

end MysqlMetrics
