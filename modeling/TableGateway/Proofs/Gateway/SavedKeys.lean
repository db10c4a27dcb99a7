import TableGateway.Proofs.Gateway.Saving

/-!
# The key values that saving updates by

Saving looks at the keys at the top of the record, and the update that it decides on selects by
columns. A column has the value of the last leaf that is written to it. So an update selects by the
value that was looked at as long as the field at the top is the last leaf of its column; where a
leaf further down comes later and makes the same column, its value selects instead, whatever it is.

Main statements: `update_selects_by_lastLeaf`, `update_selects_by_unset`.
-/

namespace TableGateway

/-- A value is set exactly if it is so in its column. -/
theorem Value.isUnset_normalized (v : Value) : v.normalized.isUnset = v.isUnset := by
  cases v <;> rfl

namespace Saving

variable {record : Record} {keys chosen : List String} {table : String} {statement : Statement}

/-- An update that saving decides on selects by each key once, with the value of the last leaf that
is written to the column of the key. If that leaf is the field at the top then this is the value
that was found to be set, as it is in columns, and so it is neither null nor zero. -/
theorem update_selects_by_lastLeaf (hsaving : Saving.of record keys = .update chosen)
    (hupdate : Statement.update table record chosen = .ok statement) :
    statement = .updating table record chosen
      ∧ ∀ key ∈ chosen, ∃ checked last,
        record.get? key = some checked ∧ checked.isUnset = false
          ∧ record.lastLeaf? key = some last
          ∧ (∀ bound, (key, bound) ∈ record.keyColumns chosen ↔ bound = last.2.normalized)
          ∧ (last.1 = [key] →
            last.2.normalized = checked.normalized ∧ last.2.normalized.isUnset = false) := by
  have hall := (of_eq_update_iff.mp hsaving).2.2
  rw [update_of_update table hsaving] at hupdate
  split at hupdate
  · contradiction
  refine ⟨(Except.ok.inj hupdate).symm, fun key hkey => ?_⟩
  obtain ⟨checked, hchecked, hset⟩ := hall key ((of_eq_update_iff.mp hsaving).1 ▸ hkey)
  obtain ⟨last, hlast⟩ := Record.exists_lastLeaf? hchecked
  refine ⟨checked, last, hchecked, hset, hlast, fun bound => ?_, fun htop => ?_⟩
  · rw [Statement.mem_keyColumns_iff, Record.get?_flatten, hlast]
    simp [hkey, eq_comm]
  · have hvalue : last.2 = checked :=
      Option.some.inj ((Record.get?_of_lastLeaf? hlast htop).symm.trans hchecked)
    rw [hvalue, Value.isUnset_normalized]
    exact ⟨rfl, hset⟩

/-- A field at the top comes behind a leaf further down that makes the same column. -/
theorem update_selects_by_lastLeaf_top :
    let nested := Row.empty.setNested "user" (Row.empty.set "id" (.int 0))
    let record := Record.row ((nested.set "user.id" (.int 7)).set "name" (.text "Ann"))
    Saving.of record ["user.id"] = .update ["user.id"]
      ∧ (∀ bound, ("user.id", bound) ∈ record.keyColumns ["user.id"] ↔ bound = .int 7)
      ∧ (Statement.update "users" record ["user.id"]).map Statement.sql
        = .ok "UPDATE `users` SET `name` = ? WHERE `user.id` = ?" := by
  intro nested record
  have hsaving : Saving.of record ["user.id"] = .update ["user.id"] := by decide +kernel
  have hupdate : Statement.update "users" record ["user.id"]
      = .ok (.updating "users" record ["user.id"]) := by rfl
  obtain ⟨checked, last, -, -, hlast, hbound, -⟩ :=
    (update_selects_by_lastLeaf hsaving hupdate).2 "user.id" List.mem_cons_self
  have htop : last = (["user.id"], .int 7) := by
    have hleaf : record.lastLeaf? "user.id" = some (["user.id"], .int 7) := by rfl
    exact Option.some.inj (hlast.symm.trans hleaf)
  rw [htop] at hbound
  exact ⟨hsaving, hbound, by rfl⟩

/-- The same leaves the other way round: the key was looked at and found to be set, and the update
selects by zero. Deleting the same record selects by the value at the top. -/
theorem update_selects_by_unset :
    let row := (Row.empty.set "user.id" (.int 7)).setNested "user" (Row.empty.set "id" (.int 0))
    let record := Record.row (row.set "name" (.text "Ann"))
    Saving.of record ["user.id"] = .update ["user.id"]
      ∧ record.get? "user.id" = some (.int 7)
      ∧ Statement.update "users" record ["user.id"]
        = .ok ⟨"UPDATE `users` SET `name` = ? WHERE `user.id` = ?", [.text "Ann", .int 0]⟩
      ∧ ("user.id", .int 0) ∈ record.keyColumns ["user.id"] ∧ Value.isUnset (.int 0)
      ∧ Statement.delete "users" record ["user.id"]
        = .ok ⟨"DELETE FROM `users` WHERE `user.id` = ?", [.int 7]⟩ := by
  intro row record
  refine ⟨by decide +kernel, by rfl, by rfl, ?_, by decide, by rfl⟩
  rw [Statement.mem_keyColumns_iff]
  exact ⟨List.mem_cons_self, by rfl⟩

end Saving

end TableGateway
