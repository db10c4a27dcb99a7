import TableGateway.Record.Basic

/-!
# Columns of a record

A record is flattened for storage: each leaf becomes a column named by the path to it, the names
joined by dots. Date-times are replaced by their text. Where two leaves have one column, the first
gives the place and the last the value.
-/

namespace TableGateway

/-- The column of a path. -/
def columnName (path : List String) : String := ".".intercalate path

/-- The columns of leaves, written one after the other. -/
def Columns.ofLeaves (leaves : List Leaf) : Columns :=
  .ofList (leaves.map fun leaf => (columnName leaf.1, leaf.2.normalized))

/-- The columns that store a record. -/
def Record.flatten (record : Record) : Columns := .ofLeaves record.leaves

end TableGateway
