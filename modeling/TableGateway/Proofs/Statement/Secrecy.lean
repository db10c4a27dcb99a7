import TableGateway.Proofs.Statement.Update

/-!
# Values do not reach the text of a statement

A record has leaves, and each leaf a path and a value. The columns of a record come from the paths
alone, whichever kind of record it is and whatever else is at a path. So does the text of each
statement that is made from a record, and so does the error where there is no statement: records
with the same paths, whatever their values, cannot be told apart by either.

Main statement: `sql_eq_of_paths_eq`.
-/

namespace TableGateway

namespace Statement

/-- The texts of statements that are made from records with the same paths are the same, and there
is a statement for both records or the same error for both. Where an identifier is given instead of
a record, it is not in the text. -/
theorem sql_eq_of_paths_eq {first second : Record} (h : first.paths = second.paths)
    (table : String) (keys : List String) :
    (insert table first).sql = (insert table second).sql
      ∧ (update table first keys).map sql = (update table second keys).map sql
      ∧ (delete table first keys).map sql = (delete table second keys).map sql
      ∧ ∀ key id id', (deleteById table key id).sql = (deleteById table key id').sql
          ∧ (findById table key id).sql = (findById table key id').sql := by
  have hnames := Record.names_flatten_congr h
  refine ⟨?_, ?_, ?_, fun _ _ _ => ⟨rfl, rfl⟩⟩
  · rw [sql_insert, sql_insert, hnames]
  · -- Each of the three outcomes is decided by the names of the columns.
    have hsql : (updating table first keys).sql = (updating table second keys).sql := by
      simp only [updating, Record.names_keyColumns, Record.names_otherColumns, hnames]
    simp only [update_eq, hnames]
    split
    · rfl
    · split
      · rfl
      · exact congrArg Except.ok hsql
  · rw [delete, delete]
    split <;> rfl

/-- A row and a document that agree in the paths and in nothing else. -/
theorem sql_eq_of_paths_eq_kinds :
    let row := Record.row
      ((Row.empty.set "id" (.int 7)).setNested "at" (Row.empty.set "city" (.text "Ulm")))
    let document := Record.document
      ⟨.object [("id", .string "` = 1 -- "), ("at", .object [("city", .null)])],
        by decide, trivial, ⟨by decide, trivial, trivial⟩, trivial⟩
    row.paths = document.paths
      ∧ (update "users" row ["id"]).map sql = (update "users" document ["id"]).map sql
      ∧ (update "users" row ["id"]).map sql
        = .ok "UPDATE `users` SET `at.city` = ? WHERE `id` = ?" := by
  intro row document
  have hpaths : row.paths = document.paths := by decide +kernel
  exact ⟨hpaths, (sql_eq_of_paths_eq hpaths "users" ["id"]).2.1, by rfl⟩

end Statement

end TableGateway
