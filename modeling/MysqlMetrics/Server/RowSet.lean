/-!
# Result sets

A result set has the column names the server sent, in its order, and rows of cells that are text or
NULL. A row may have fewer or more cells than there are columns, and a name may occur twice. A row
is read by position (`Row.pairs`) or by name (`Row.get?`), the latter through an index of the names.

* `Columns.lookup_index`: the index has the position of the first column of each name.
* `rows_push`: adding a row leaves the rows before it as they are.
-/

namespace MysqlMetrics

namespace Columns

/-- Enters the position of a column, unless its name has one: the first of several columns of a name
keeps it. -/
def enter (index : List (String × Nat)) (column : String × Nat) : List (String × Nat) :=
  if (index.lookup column.1).isSome then index else column :: index

/-- The position of each name. -/
def index (names : List String) : List (String × Nat) := names.zipIdx.foldl enter []

theorem lookup_enter (index : List (String × Nat)) (column : String × Nat) (name : String) :
    (enter index column).lookup name =
      (index.lookup name).or (if column.1 = name then some column.2 else none) := by
  unfold enter
  split
  · rename_i hsome
    split
    · rename_i hname
      rw [hname] at hsome
      obtain ⟨i, hi⟩ := Option.isSome_iff_exists.mp hsome
      rw [hi]
      rfl
    · rw [Option.or_none]
  · rename_i hnone
    by_cases hname : column.1 = name
    · subst hname
      rw [Option.not_isSome_iff_eq_none.mp hnone, List.lookup_cons_self, if_pos rfl, Option.none_or]
    · have hne : (name == column.1) = false := by simpa using Ne.symm hname
      rw [if_neg hname, Option.or_none, List.lookup_cons, hne]

theorem lookup_foldl_enter (names : List String) (first : Nat) (index : List (String × Nat))
    (name : String) :
    ((names.zipIdx first).foldl enter index).lookup name =
      (index.lookup name).or ((names.idxOf? name).map (· + first)) := by
  induction names generalizing first index with
  | nil => simp
  | cons column rest ih =>
    rw [List.zipIdx_cons, List.foldl_cons, ih, lookup_enter, Option.or_assoc]
    congr 1
    by_cases hname : column = name
    · simp [List.idxOf?, List.findIdx?_cons, hname]
    · simp [List.idxOf?, List.findIdx?_cons, hname, Function.comp_def, Nat.add_comm,
        Nat.add_left_comm]

/-- The index has the position of the first column of each name. -/
theorem lookup_index (names : List String) (name : String) :
    (index names).lookup name = names.idxOf? name := by
  simp [index, lookup_foldl_enter]

end Columns

/-- A row with the names of its result set's columns. -/
structure Row where
  columns : List String
  cells : List (Option String)
  deriving DecidableEq, Repr

namespace Row

/-- The cell at a position; NULL where the row is too short. -/
def cell? (row : Row) (i : Nat) : Option String := (row.cells[i]?).join

/-- Every column in order with its cell; cells without a column are left out. -/
def pairs (row : Row) : List (String × Option String) :=
  row.columns.mapIdx fun i name => (name, row.cell? i)

/-- The value of the first column of a name, nothing if it is NULL or there is no such column. -/
def get? (row : Row) (name : String) : Option String :=
  ((Columns.index row.columns).lookup name).bind row.cell?

/-- The first value among several names, or the empty text. -/
def getOrEmpty (row : Row) (names : List String) : String := (names.findSome? row.get?).getD ""

theorem get?_eq (row : Row) (name : String) :
    row.get? name = (row.columns.idxOf? name).bind row.cell? := by
  rw [get?, Columns.lookup_index]

end Row

/-- The answer to a query: columns, and the cells of each row. -/
structure RowSet where
  columns : List String
  cells : List (List (Option String))
  deriving DecidableEq, Repr

namespace RowSet

/-- A result set without columns and rows. -/
def empty : RowSet := ⟨[], []⟩

/-- The rows in the server's order. -/
def rows (s : RowSet) : List Row := s.cells.map fun cells => ⟨s.columns, cells⟩

/-- A result set with one more row at its end. -/
def push (s : RowSet) (cells : List (Option String)) : RowSet :=
  { s with cells := s.cells ++ [cells] }

theorem rows_push (s : RowSet) (cells : List (Option String)) :
    (s.push cells).rows = s.rows ++ [⟨s.columns, cells⟩] := by
  simp [push, rows]

end RowSet

end MysqlMetrics
