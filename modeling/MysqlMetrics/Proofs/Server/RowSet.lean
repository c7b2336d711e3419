import Mathlib.Data.List.Basic
import MysqlMetrics.Server.RowSet

/-!
# Rows by name and by position

A row is read by position, column after column, and by name. Both readings agree also where a name
occurs twice or the row has fewer cells than there are columns.

* `Row.getElem?_pairs`: what is read by position.
* `Row.get?_eq_find?`: what is read by name, from what is read by position.
* `RowSet.rows_prefix`: more rows leave the rows before them as they are.
* `RowSet.names_agree_with_positions`: both readings of every row of a result set.
-/

namespace MysqlMetrics

namespace Row

theorem getElem?_pairs (row : Row) (i : Nat) :
    row.pairs[i]? = row.columns[i]?.map fun name => (name, row.cell? i) := by
  rw [pairs, List.getElem?_mapIdx]

theorem find?_mapIdx (columns : List String) (name : String) (cell : Nat → Option String) :
    (columns.mapIdx fun i n => (n, cell i)).find? (·.1 = name) =
      (columns.idxOf? name).map fun i => (name, cell i) := by
  induction columns generalizing cell with
  | nil => rfl
  | cons column rest ih =>
    by_cases h : column = name
    · subst h
      simp [List.idxOf?, List.findIdx?_cons]
    · have := ih fun i => cell (i + 1)
      simp only [List.idxOf?] at this
      simp [List.mapIdx_cons, List.idxOf?, List.findIdx?_cons, h, this, Function.comp_def]

/-- The value of a name is that of the first pair of that name. -/
theorem get?_eq_find? (row : Row) (name : String) :
    row.get? name = (row.pairs.find? (·.1 = name)).bind Prod.snd := by
  rw [pairs, find?_mapIdx, get?_eq]
  cases row.columns.idxOf? name <;> rfl

theorem get?_of_first {row : Row} {name : String} {value : Option String}
    {before after : List (String × Option String)}
    (h : row.pairs = before ++ (name, value) :: after) (hbefore : ∀ pair ∈ before, pair.1 ≠ name) :
    row.get? name = value := by
  have hfind : row.pairs.find? (·.1 = name) = some (name, value) :=
    List.find?_eq_some_iff_append.mpr
      ⟨decide_eq_true rfl, before, after, h, fun pair hpair => by simpa using hbefore pair hpair⟩
  rw [get?_eq_find?, hfind]
  rfl

theorem get?_of_not_mem {row : Row} {name : String} (h : name ∉ row.columns) :
    row.get? name = none := by
  rw [get?_eq, List.idxOf?_eq_none_iff.mpr h]
  rfl

theorem getOrEmpty_of_first {row : Row} {name value : String} {before after : List String}
    (hbefore : ∀ other ∈ before, row.get? other = none) (h : row.get? name = some value) :
    row.getOrEmpty (before ++ name :: after) = value := by
  have hnone : before.findSome? row.get? = none := List.findSome?_eq_none_iff.mpr hbefore
  rw [getOrEmpty, List.findSome?_append, hnone, List.findSome?_cons, h]
  rfl

theorem getOrEmpty_of_none {row : Row} {names : List String}
    (h : ∀ name ∈ names, row.get? name = none) : row.getOrEmpty names = "" := by
  rw [getOrEmpty, List.findSome?_eq_none_iff.mpr h]
  rfl

end Row

namespace RowSet

theorem rows_prefix (s : RowSet) (more : List (List (Option String))) :
    s.rows <+: (more.foldl push s).rows := by
  induction more generalizing s with
  | nil => exact List.prefix_rfl
  | cons cells rest ih =>
    have hone : s.rows <+: (s.push cells).rows := by
      rw [rows_push]
      exact List.prefix_append _ _
    exact hone.trans (ih (s.push cells))

/-- **Names and positions agree.** Every row of a result set has one pair for each column, in the
order of the columns, with the cell at that position or, where there is none, with NULL. By name it
gives the value of the first pair of that name, even if that is NULL and a later one is not, and
nothing for other names; of several names the first one that has a value counts. Rows that are added
leave the earlier ones as they are. -/
theorem names_agree_with_positions (s : RowSet) :
    (∀ row ∈ s.rows, row.columns = s.columns ∧ row.pairs.length = s.columns.length ∧
      (∀ i : Nat, row.pairs[i]? = s.columns[i]?.map fun name => (name, (row.cells[i]?).join)) ∧
      (∀ name,
        (∀ before value after, row.pairs = before ++ (name, value) :: after →
          (∀ pair ∈ before, pair.1 ≠ name) → row.get? name = value) ∧
        (name ∉ s.columns → row.get? name = none)) ∧
      ∀ names,
        (∀ before name after value, names = before ++ name :: after →
          (∀ other ∈ before, row.get? other = none) → row.get? name = some value →
          row.getOrEmpty names = value) ∧
        ((∀ name ∈ names, row.get? name = none) → row.getOrEmpty names = "")) ∧
    ∀ more : List (List (Option String)), s.rows <+: (more.foldl push s).rows := by
  refine ⟨fun row hrow => ?_, s.rows_prefix⟩
  obtain ⟨cells, -, rfl⟩ := List.mem_map.mp hrow
  refine ⟨rfl, List.length_mapIdx, Row.getElem?_pairs _, fun name => ⟨?_, fun hname => ?_⟩,
    fun names => ⟨?_, Row.getOrEmpty_of_none⟩⟩
  · exact fun before value after hpairs hbefore => Row.get?_of_first hpairs hbefore
  · exact Row.get?_of_not_mem hname
  · rintro before name after value rfl hbefore hvalue
    exact Row.getOrEmpty_of_first hbefore hvalue

/-- A row that is too short, with a name that occurs twice: its first column is NULL, and the third,
of the same name, is not read. -/
theorem names_agree_with_positions_repeated :
    let s : RowSet := ⟨["Host", "User", "Host", ""], [[none, some "a", some "b"]]⟩
    let row : Row := ⟨s.columns, [none, some "a", some "b"]⟩
    row ∈ s.rows ∧
      row.pairs = [("Host", none), ("User", some "a"), ("Host", some "b"), ("", none)] ∧
      row.get? "Host" = none ∧ row.getOrEmpty ["Host", "Port", "User"] = "a" ∧
      s.rows <+: ([[some "c"], []].foldl push s).rows := by
  intro s row
  have hrow : row ∈ s.rows := List.mem_singleton.mpr rfl
  obtain ⟨hrows, hprefix⟩ := names_agree_with_positions s
  obtain ⟨-, -, -, hget, hfirst⟩ := hrows row hrow
  have hhost : row.get? "Host" = none := (hget "Host").1 [] none _ rfl (by simp)
  have hport : row.get? "Port" = none := (hget "Port").2 (by decide)
  have huser : row.get? "User" = some "a" :=
    (hget "User").1 [("Host", none)] (some "a") _ rfl (by decide)
  exact ⟨hrow, rfl, hhost, (hfirst _).1 ["Host", "Port"] "User" [] "a" rfl
    (by simp [hhost, hport]) huser, hprefix _⟩

end RowSet

end MysqlMetrics
