import TableGateway.Proofs.Record.Leaves
import TableGateway.Record.Flatten

/-!
# The columns of a record and its leaves

Each leaf is written to the column that its path makes, and a column has the value of the last leaf
that is written to it. The value that a name reads back at the top is a leaf of the column of this
name. Other leaves, further down, may make the same column.

Main statements: `names_flatten`, `get?_flatten`, `get?_of_lastLeaf?`, `entries_flatten_of_nodup`.
-/

namespace TableGateway.Record

variable {record : Record} {column : String} {v : Value}

/-! ## Names -/

/-- The paths of the leaves, in order. -/
def paths (record : Record) : List (List String) := record.leaves.map Prod.fst

/-- No path leads to two leaves. -/
theorem nodup_paths (record : Record) : record.paths.Nodup := by
  rw [paths, ← leaves_toRow]
  exact Field.nodup_allLeaves record.toRow.fields.nodup record.toRow.distinct []

/-- A name at the top makes the column of this name. -/
theorem columnName_singleton (name : String) : columnName [name] = name :=
  String.intercalate_singleton

/-- What is written to columns is named by the paths. -/
theorem names_written (record : Record) :
    Entries.names (record.leaves.map fun leaf => (columnName leaf.1, leaf.2.normalized))
      = record.paths.map columnName := by
  simp [Entries.names, paths, Function.comp_def]

/-- The columns are named by the paths, each where it comes first. -/
theorem names_flatten (record : Record) :
    record.flatten.names = (record.paths.map columnName).eraseDups := by
  rw [flatten, Columns.ofLeaves, OrderedMap.names_ofList, names_written]

theorem names_flatten_congr {first second : Record} (h : first.paths = second.paths) :
    first.flatten.names = second.flatten.names := by
  rw [names_flatten, names_flatten, h]

theorem mem_names_flatten :
    column ∈ record.flatten.names ↔ ∃ leaf ∈ record.leaves, columnName leaf.1 = column := by
  rw [names_flatten, List.mem_eraseDups]
  simp [paths]

/-- What reads back at the top has a column of its own name, whatever else has this column. -/
theorem mem_names_flatten_of_get? (h : record.get? column = some v) :
    column ∈ record.flatten.names :=
  mem_names_flatten.mpr ⟨([column], v), get?_eq_some_iff.mp h, columnName_singleton column⟩

/-! ## Values -/

/-- The last leaf that is written to a column. -/
def lastLeaf? (record : Record) (column : String) : Option Leaf :=
  (record.leaves.filter fun leaf => columnName leaf.1 = column).getLast?

/-- A column has the value of the last leaf that is written to it. -/
theorem get?_flatten (record : Record) (column : String) :
    record.flatten.get? column
      = (record.lastLeaf? column).map fun leaf => leaf.2.normalized := by
  rw [flatten, Columns.ofLeaves, OrderedMap.get?_ofList, List.filter_map, List.getLast?_map,
    Option.map_map]
  rfl

/-- A value at the top is a leaf of the column of its name, so the column has a last leaf. -/
theorem exists_lastLeaf? (h : record.get? column = some v) :
    ∃ leaf, record.lastLeaf? column = some leaf := by
  have hmem : ([column], v) ∈ record.leaves.filter fun leaf => columnName leaf.1 = column :=
    List.mem_filter.mpr
      ⟨get?_eq_some_iff.mp h, decide_eq_true (columnName_singleton column)⟩
  exact Option.isSome_iff_exists.mp (List.getLast?_isSome.mpr (List.ne_nil_of_mem hmem))

/-- If the last leaf of a column is the one at the top then its value reads back there. -/
theorem get?_of_lastLeaf? {leaf : Leaf} (h : record.lastLeaf? column = some leaf)
    (htop : leaf.1 = [column]) : record.get? column = some leaf.2 := by
  rw [get?_eq_some_iff, ← htop]
  exact (List.mem_filter.mp (List.mem_of_getLast? h)).1

/-! ## Columns of one leaf each -/

/-- If no two leaves make one column then the columns are the leaves, in their order. -/
theorem entries_flatten_of_nodup (h : (record.paths.map columnName).Nodup) :
    record.flatten.entries
      = record.leaves.map fun leaf => (columnName leaf.1, leaf.2.normalized) := by
  refine OrderedMap.entries_ofList ?_
  rw [names_written]
  exact h

/-- A value at the top is the value of its column if no other leaf makes this column. -/
theorem get?_flatten_of_get? (h : (record.paths.map columnName).Nodup)
    (hget : record.get? column = some v) : record.flatten.get? column = some v.normalized := by
  rw [OrderedMap.get?, Entries.find?_eq_some_iff record.flatten.nodup, entries_flatten_of_nodup h]
  exact List.mem_map.mpr
    ⟨([column], v), get?_eq_some_iff.mp hget, by rw [columnName_singleton]⟩

end TableGateway.Record
