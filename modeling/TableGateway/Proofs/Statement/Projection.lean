import Mathlib.Data.List.Forall2
import TableGateway.Proofs.Record.Flattening
import TableGateway.Proofs.Statement.Interchange

/-!
# Flattening is a projection

Columns are a record themselves, and so is the flat row that is made of them; either way the names
stay whole, dots included, so flattening leaves every column in its place. What it still does is to
make text of date-times. The columns of a record have been through that already: flattened a second
time they stay as they are. Insertions and updates see a record through its columns alone, so they
cannot tell the record from its columns, nor from the row that is made of these.

Main statements: `entries_flatten_columns`, `storedAlike_of_flatten`, `flatten_projects`.
-/

namespace TableGateway

namespace Record

variable {record first second : Record}

/-! ## Flattening flat records -/

/-- Flat columns keep their places and names; their date-times become text. -/
theorem entries_flatten_columns (columns : Columns) :
    (Record.columns columns).flatten.entries
      = columns.entries.map fun column => (column.1, column.2.normalized) := by
  have hpaths : (Record.columns columns).paths.map columnName = columns.names := by
    simp [paths, leaves, Columns.leaves, columnName_singleton, OrderedMap.names, Entries.names,
      Function.comp_def]
  rw [entries_flatten_of_nodup (by rw [hpaths]; exact columns.nodup)]
  simp [leaves, Columns.leaves, columnName_singleton, Function.comp_def]

/-- The row that is made of columns has their leaves, and so their columns. -/
theorem flatten_ofColumns (columns : Columns) :
    (Record.row (.ofColumns columns)).flatten = (Record.columns columns).flatten :=
  congrArg Columns.ofLeaves (leaves_ofColumns columns)

/-- What stands in a column has been made text where it was a date and time. -/
theorem normalized_of_mem_flatten {column : String × Value}
    (h : column ∈ record.flatten.entries) : column.2.normalized = column.2 := by
  obtain ⟨leaf, -, hstored⟩ := mem_entries_flatten_iff.mp h
  rw [Value.storedAs_iff.mp hstored, Value.normalized_normalized]

/-- The columns of a record are flat and have no date-times, so flattening leaves them alone. -/
theorem flatten_flatten (record : Record) :
    (Record.columns record.flatten).flatten = record.flatten := by
  refine OrderedMap.eq_of_entries_eq ?_
  have hid : ∀ column ∈ record.flatten.entries, (column.1, column.2.normalized) = column :=
    fun column hcolumn => congrArg (column.1, ·) (normalized_of_mem_flatten hcolumn)
  rw [entries_flatten_columns, List.map_congr_left hid, List.map_id']

/-! ## Statements see the columns -/

/-- The records have the same columns, and no statement that writes records tells them apart. -/
structure StoredAlike (first second : Record) : Prop where
  flatten : first.flatten = second.flatten
  insert : ∀ table, Statement.insert table first = Statement.insert table second
  update : ∀ table keys, Statement.update table first keys = Statement.update table second keys

theorem storedAlike_of_flatten (h : first.flatten = second.flatten) :
    first.StoredAlike second where
  flatten := h
  insert := insert_congr h
  update := update_congr h

/-- A record, its columns and the row that is made of these are stored alike. The row of any
columns, such as a database returns them, has these columns again, in their order, with nothing
but the date-times at the top made text. -/
theorem flatten_projects (record : Record) :
    (Record.columns record.flatten).StoredAlike record
      ∧ (Record.row (.ofColumns record.flatten)).StoredAlike record
      ∧ ∀ fetched : Columns,
        List.Forall₂ (fun column stored => stored.1 = column.1 ∧ column.2.StoredAs stored.2)
          fetched.entries (Record.row (.ofColumns fetched)).flatten.entries := by
  have hcolumns := flatten_flatten record
  refine ⟨storedAlike_of_flatten hcolumns, storedAlike_of_flatten ?_, fun fetched => ?_⟩
  · rw [flatten_ofColumns, hcolumns]
  · rw [flatten_ofColumns, entries_flatten_columns, List.forall₂_map_right_iff, List.forall₂_same]
    exact fun column _ => ⟨rfl, Value.storedAs_iff.mpr rfl⟩

/-- A dotted name comes first and keeps its place, with the value of the leaf further down; a list
keeps its date and time. Read at the top, the columns are another record than the row. -/
example (t : DateTime) :
    let row := ((Row.empty.set "at.day" (.int 1)).set "days" (.list [.dateTime t])).setNested "at"
      (Row.empty.set "day" (.dateTime t))
    let columns := Record.columns (Record.row row).flatten
    columns.flatten.entries = [("at.day", .text t.text), ("days", .list [.dateTime t])]
      ∧ (Record.row row).get? "at.day" = some (.int 1)
      ∧ columns.get? "at.day" = some (.text t.text) := by
  exact ⟨rfl, rfl, rfl⟩

end Record

end TableGateway
