import TableGateway.Proofs.Record.Columns
import TableGateway.Statement

/-!
# Updates by their columns

An update splits the columns of a record in two: those that are keys select it, all others are set,
and both keep their order. Whether there is a statement, and which error there is otherwise, depends
on the names of the columns alone.

Main statements: `Record.names_keyColumns`, `update_eq`.
-/

namespace TableGateway

namespace Record

/-- The columns that are keys. -/
def keyColumns (record : Record) (keys : List String) : List (String × Value) :=
  record.flatten.entries.filter fun column => column.1 ∈ keys

/-- The columns that are no keys. -/
def otherColumns (record : Record) (keys : List String) : List (String × Value) :=
  record.flatten.entries.filter fun column => column.1 ∉ keys

theorem names_keyColumns (record : Record) (keys : List String) :
    Entries.names (record.keyColumns keys) = record.flatten.names.filter (· ∈ keys) := by
  simp [keyColumns, OrderedMap.names, Entries.names, List.filter_map, Function.comp_def]

theorem names_otherColumns (record : Record) (keys : List String) :
    Entries.names (record.otherColumns keys) = record.flatten.names.filter (· ∉ keys) := by
  simp [otherColumns, OrderedMap.names, Entries.names, List.filter_map, Function.comp_def]

end Record

namespace Statement

/-- The update that selects by the columns that are keys and sets all others. -/
def updating (table : String) (record : Record) (keys : List String) : Statement where
  sql := "UPDATE " ++ Identifier.backticked table
    ++ " SET " ++ assignments (Entries.names (record.otherColumns keys))
    ++ " WHERE " ++ conditions (Entries.names (record.keyColumns keys))
  params := (record.otherColumns keys).map Prod.snd ++ (record.keyColumns keys).map Prod.snd

theorem keyColumns_eq_nil_iff {record : Record} {keys : List String} :
    record.keyColumns keys = [] ↔ ∀ column ∈ record.flatten.names, column ∉ keys := by
  simp [Record.keyColumns, List.filter_eq_nil_iff, OrderedMap.names, Entries.names]

theorem otherColumns_eq_nil_iff {record : Record} {keys : List String} :
    record.otherColumns keys = [] ↔ ∀ column ∈ record.flatten.names, column ∈ keys := by
  simp [Record.otherColumns, List.filter_eq_nil_iff, OrderedMap.names, Entries.names]

/-- Without a column that is a key there is no update, and none without one that is no key. -/
theorem update_eq (table : String) (record : Record) (keys : List String) :
    update table record keys
      = if ∀ column ∈ record.flatten.names, column ∉ keys then .error (.noKey table)
        else if ∀ column ∈ record.flatten.names, column ∈ keys then .error (.nothingToSet table)
        else .ok (updating table record keys) := by
  have hsplit : record.flatten.entries.partition (fun entry => keys.contains entry.1)
      = (record.keyColumns keys, record.otherColumns keys) := by
    rw [List.partition_eq_filter_filter]
    simp only [Record.keyColumns, Record.otherColumns, List.contains_eq_mem, Function.comp_def,
      decide_not]
  rw [update, hsplit]
  simp only [List.isEmpty_iff, keyColumns_eq_nil_iff, otherColumns_eq_nil_iff]
  rfl

/-! ## The columns that select -/

theorem nodup_names_keyColumns (record : Record) (keys : List String) :
    (Entries.names (record.keyColumns keys)).Nodup := by
  rw [Record.names_keyColumns]
  exact record.flatten.nodup.filter _

/-- A column that selects is a key, and it does so with the value that it has. -/
theorem mem_keyColumns_iff {record : Record} {keys : List String} {column : String} {v : Value} :
    (column, v) ∈ record.keyColumns keys
      ↔ column ∈ keys ∧ record.flatten.get? column = some v := by
  rw [Record.keyColumns, List.mem_filter, decide_eq_true_eq, OrderedMap.get?,
    Entries.find?_eq_some_iff record.flatten.nodup, and_comm]

theorem mem_names_keyColumns {record : Record} {keys : List String} {column : String} :
    column ∈ Entries.names (record.keyColumns keys)
      ↔ column ∈ record.flatten.names ∧ column ∈ keys := by
  rw [Record.names_keyColumns, List.mem_filter, decide_eq_true_eq]

end Statement

end TableGateway
