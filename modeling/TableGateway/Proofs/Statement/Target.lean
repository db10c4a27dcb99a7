import Mathlib.Data.List.Nodup
import TableGateway.Proofs.Statement.Partition
import TableGateway.Proofs.Statement.Reading

/-!
# Updates and deletions have the same target

A deletion reads the key values at the top of the record, in the order of the keys, and takes them
as they are. An update takes the key columns of the flattened record, in the order of the columns,
with date-times made text. If each leaf has a column of its own and all keys read back at the top
then these are the same keys with the same values, in another order at most; a record that reads
back all keys is not short of a key.

There has to be a key, though. Without one neither statement has a target, and both miss it.

Main statements: `keyColumns_perm`, `update_targets_deleted`, `update_without_keys_misses_key`.
-/

namespace TableGateway

namespace Record

variable {record : Record} {keys : List String}

/-- The keys with the values that the record reads back for them, null where it has none. -/
def keyValues (record : Record) (keys : List String) : List (String × Value) :=
  keys.map fun key => (key, (record.get? key).getD .null)

/-- Where all keys read back, there is no null that stands for a missing value. -/
theorem mem_keyValues_iff (hget : ∀ key ∈ keys, (record.get? key).isSome) {key : String}
    {v : Value} : (key, v) ∈ record.keyValues keys ↔ key ∈ keys ∧ record.get? key = some v := by
  rw [keyValues, List.mem_map]
  constructor
  · rintro ⟨_, hkey, heq⟩
    obtain ⟨rfl, rfl⟩ := Prod.mk.inj heq
    obtain ⟨v, hv⟩ := Option.isSome_iff_exists.mp (hget _ hkey)
    exact ⟨hkey, by rw [hv]; rfl⟩
  · rintro ⟨hkey, hv⟩
    exact ⟨key, hkey, by rw [hv]; rfl⟩

/-- A key that reads back has a column. -/
theorem keyColumns_ne_nil (hne : keys ≠ []) (hget : ∀ key ∈ keys, (record.get? key).isSome) :
    record.keyColumns keys ≠ [] := by
  intro hnil
  obtain ⟨key, hkey⟩ := List.exists_mem_of_ne_nil keys hne
  obtain ⟨v, hv⟩ := Option.isSome_iff_exists.mp (hget key hkey)
  exact Statement.keyColumns_eq_nil_iff.mp hnil key (mem_names_flatten_of_get? hv) hkey

/-- A key column holds what the record reads back for the key, as it is in columns. -/
theorem mem_keyColumns_iff_keyValues (hcolumns : (record.paths.map columnName).Nodup)
    (hget : ∀ key ∈ keys, (record.get? key).isSome) {column : String × Value} :
    column ∈ record.keyColumns keys
      ↔ column ∈ (record.keyValues keys).map fun entry => (entry.1, entry.2.normalized) := by
  obtain ⟨key, v⟩ := column
  rw [Statement.mem_keyColumns_iff, List.mem_map]
  constructor
  · rintro ⟨hkey, hv⟩
    obtain ⟨w, hw⟩ := Option.isSome_iff_exists.mp (hget key hkey)
    rw [get?_flatten_of_get? hcolumns hw] at hv
    exact ⟨(key, w), (mem_keyValues_iff hget).mpr ⟨hkey, hw⟩, by rw [Option.some.inj hv]⟩
  · rintro ⟨⟨_, w⟩, hmem, heq⟩
    obtain ⟨rfl, rfl⟩ := Prod.mk.inj heq
    obtain ⟨hkey, hw⟩ := (mem_keyValues_iff hget).mp hmem
    exact ⟨hkey, get?_flatten_of_get? hcolumns hw⟩

/-- The key columns are the keys with their values, in the order of the columns. -/
theorem keyColumns_perm (hcolumns : (record.paths.map columnName).Nodup) (hkeys : keys.Nodup)
    (hget : ∀ key ∈ keys, (record.get? key).isSome) :
    (record.keyColumns keys).Perm
      ((record.keyValues keys).map fun entry => (entry.1, entry.2.normalized)) := by
  have hnames : ((record.keyValues keys).map fun entry => (entry.1, entry.2.normalized)).map
      Prod.fst = keys := by
    rw [List.map_map]
    exact Entries.names_map_graph _ keys
  have hselecting : (record.keyColumns keys).Nodup :=
    (Statement.nodup_names_keyColumns record keys).of_map _
  have hdeleting : ((record.keyValues keys).map fun entry =>
      (entry.1, entry.2.normalized)).Nodup :=
    List.Nodup.of_map Prod.fst (hnames.symm ▸ hkeys)
  exact (List.perm_ext_iff_of_nodup hselecting hdeleting).mpr fun _ =>
    mem_keyColumns_iff_keyValues hcolumns hget

end Record

namespace Statement

variable {table : String} {record : Record} {keys : List String}

/-- What updating and deleting a record by the same keys have to do with each other. -/
structure SameTarget (table : String) (record : Record) (keys : List String) : Prop where
  /-- The deletion selects by the keys, in their order and with the values at the top. -/
  deletes : delete table record keys
    = .ok (selectingBy "DELETE FROM " table (record.keyValues keys))
  keyValue : ∀ key v, (key, v) ∈ record.keyValues keys ↔ key ∈ keys ∧ record.get? key = some v
  /-- The update selects by the same, in some order. -/
  updates : ∀ s, update table record keys = .ok s →
    ∃ setting selecting, SplitByKeys keys record.flatten.entries setting selecting
      ∧ s = settingWhere table setting selecting
      ∧ selecting.Perm ((record.keyValues keys).map fun entry => (entry.1, entry.2.normalized))
  /-- Without an update it is not a key that is missed. -/
  refuses : ∀ e, update table record keys = .error e → e = .nothingToSet table

theorem update_targets_deleted (hcolumns : (record.paths.map columnName).Nodup)
    (hne : keys ≠ []) (hkeys : keys.Nodup) (hget : ∀ key ∈ keys, (record.get? key).isSome) :
    SameTarget table record keys where
  deletes := by rw [delete_eq, if_neg hne]; rfl
  keyValue _ _ := Record.mem_keyValues_iff hget
  updates s hs := by
    obtain ⟨setting, selecting, hsplit, -, -, rfl⟩ := update_eq_ok_iff.mp hs
    refine ⟨setting, selecting, hsplit, rfl, ?_⟩
    rw [hsplit.eq_filter.2]
    exact Record.keyColumns_perm hcolumns hkeys hget
  refuses e he := by
    rcases update_outcomes table record keys with ⟨h, -⟩ | ⟨-, -, hupdate⟩ | ⟨-, -, hupdate⟩
    · exact absurd h (Record.keyColumns_ne_nil hne hget)
    · exact (Except.error.inj (hupdate.symm.trans he)).symm
    · rw [hupdate] at he
      contradiction

/-- Two keys that come the other way round in the record, one of them a date and time, and a record
between them. -/
theorem update_targets_deleted_shuffled :
    let day : DateTime := ⟨⟨2020, 2, 14, by decide, by decide⟩, ⟨84738, 0⟩⟩
    let user := (Row.empty.set "id" (.int 1)).set "name" (.text "Ann")
    let record := Record.row
      (((Row.empty.set "day" (.dateTime day)).setNested "user" user).set "org" (.int 3))
    (record.paths.map columnName).Nodup ∧ (∀ key ∈ ["org", "day"], (record.get? key).isSome)
      ∧ (∃ setting selecting,
        SplitByKeys ["org", "day"] record.flatten.entries setting selecting
          ∧ update "users" record ["org", "day"] = .ok (settingWhere "users" setting selecting)
          ∧ selecting.Perm [("org", .int 3), ("day", .text "2020-02-14 23:32:18")])
      ∧ delete "users" record ["org", "day"]
        = .ok ⟨"DELETE FROM `users` WHERE `org` = ? AND `day` = ?", [.int 3, .dateTime day]⟩ := by
  intro day user record
  have hcolumns : (record.paths.map columnName).Nodup := by decide +kernel
  have hget : ∀ key ∈ ["org", "day"], (record.get? key).isSome := by decide +kernel
  have h : SameTarget "users" record ["org", "day"] :=
    update_targets_deleted hcolumns (by decide) (by decide) hget
  have hupdate : update "users" record ["org", "day"]
      = .ok (updating "users" record ["org", "day"]) := by rfl
  have htext : day.text = "2020-02-14 23:32:18" := by decide +kernel
  have hvalues : ((record.keyValues ["org", "day"]).map fun entry => (entry.1, entry.2.normalized))
      = [("org", .int 3), ("day", .text day.text)] := by rfl
  obtain ⟨setting, selecting, hsplit, hs, hperm⟩ := h.updates _ hupdate
  rw [hvalues, htext] at hperm
  exact ⟨hcolumns, hget, ⟨setting, selecting, hsplit, hs ▸ hupdate, hperm⟩, h.deletes⟩

/-- Without keys, all of them read back; but the update misses a key, whether there is something to
set or not, and so does the deletion. -/
theorem update_without_keys_misses_key :
    let record := Record.row (Row.empty.set "id" (.int 7))
    let nothing := Record.row .empty
    let keys : List String := []
    ((record.paths.map columnName).Nodup ∧ (nothing.paths.map columnName).Nodup ∧ keys.Nodup
        ∧ ∀ key ∈ keys, (record.get? key).isSome ∧ (nothing.get? key).isSome)
      ∧ update "users" record keys = .error (.noKey "users")
      ∧ update "users" nothing keys = .error (.noKey "users")
      ∧ Error.noKey "users" ≠ .nothingToSet "users"
      ∧ delete "users" record keys = .error (.noKey "users") := by
  intro record nothing keys
  exact ⟨by decide +kernel, by rfl, by rfl, by decide, by rfl⟩

end Statement

end TableGateway
