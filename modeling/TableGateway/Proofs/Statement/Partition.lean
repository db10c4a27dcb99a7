import TableGateway.Proofs.Statement.Reading

/-!
# An update partitions the columns of an insertion

An insertion writes all columns of a record. An update of the same record has the same columns with
the same values, in two lists: the columns that are keys select, the others are set. Neither list
changes the order, and merging them gives back the columns of the insertion. There is an update if
neither list is empty; otherwise the error tells which one is, and the list that selects comes
first.

The keys matter as a set: neither their order nor how often one is given makes a difference.

As long as no name holds a backtick, all this can be seen in the texts: a reader of statements takes
the two lists off the update, and the columns of the record off the insertion.

Main statements: `interleaving_filter`, `update_eq_ok_iff`, `SplitByKeys.readsAs_update`,
`update_partitions_insertion`.
-/

namespace TableGateway

/-! ## Merged lists -/

/-- The third list is made of the other two, and has the entries of each in their order. -/
inductive Interleaving {α : Type} : List α → List α → List α → Prop where
  | nil : Interleaving [] [] []
  | left {a : α} {first second merged : List α} (h : Interleaving first second merged) :
      Interleaving (a :: first) second (a :: merged)
  | right {a : α} {first second merged : List α} (h : Interleaving first second merged) :
      Interleaving first (a :: second) (a :: merged)

/-- A list is merged from the entries with a property and those without. -/
theorem interleaving_filter {α : Type} (p : α → Prop) [DecidablePred p] (entries : List α) :
    Interleaving (entries.filter (¬ p ·)) (entries.filter (p ·)) entries := by
  induction entries with
  | nil => exact .nil
  | cons entry rest ih =>
    by_cases h : p entry
    · simpa [h] using ih.right
    · simpa [h] using ih.left

/-- There is one way only to put the entries with a property into the second list and those without
into the first. -/
theorem Interleaving.eq_filter {α : Type} {p : α → Prop} [DecidablePred p]
    {first second merged : List α} (h : Interleaving first second merged)
    (hfirst : ∀ entry ∈ first, ¬ p entry) (hsecond : ∀ entry ∈ second, p entry) :
    first = merged.filter (¬ p ·) ∧ second = merged.filter (p ·) := by
  induction h with
  | nil => exact ⟨rfl, rfl⟩
  | left _ ih =>
    rw [List.forall_mem_cons] at hfirst
    obtain ⟨hleft, hright⟩ := ih hfirst.2 hsecond
    rw [List.filter_cons_of_pos (by simpa using hfirst.1),
      List.filter_cons_of_neg (by simpa using hfirst.1), ← hleft, ← hright]
    exact ⟨rfl, rfl⟩
  | right _ ih =>
    rw [List.forall_mem_cons] at hsecond
    obtain ⟨hleft, hright⟩ := ih hfirst hsecond.2
    rw [List.filter_cons_of_neg (by simpa using hsecond.1),
      List.filter_cons_of_pos (by simpa using hsecond.1), ← hleft, ← hright]
    exact ⟨rfl, rfl⟩

namespace Statement

variable {table : String} {record : Record} {keys : List String}

/-! ## Statements of columns -/

/-- The insertion of columns with their values. -/
def inserting (table : String) (columns : List (String × Value)) : Statement where
  sql := "INSERT INTO " ++ Identifier.backticked table ++ " ("
    ++ ",".intercalate ((Entries.names columns).map Identifier.backticked) ++ ") VALUES ("
    ++ ",".intercalate ((Entries.names columns).map fun _ => "?") ++ ")"
  params := columns.map Prod.snd

/-- The update that sets columns and selects by others. -/
def settingWhere (table : String) (setting selecting : List (String × Value)) : Statement where
  sql := "UPDATE " ++ Identifier.backticked table
    ++ " SET " ++ assignments (Entries.names setting)
    ++ " WHERE " ++ conditions (Entries.names selecting)
  params := setting.map Prod.snd ++ selecting.map Prod.snd

/-- The columns are split in two, each part in order: those that are set and those that select. -/
structure SplitByKeys (keys : List String) (columns setting selecting : List (String × Value)) :
    Prop where
  interleaving : Interleaving setting selecting columns
  not_key : ∀ column ∈ setting, column.1 ∉ keys
  key : ∀ column ∈ selecting, column.1 ∈ keys

theorem splitByKeys_filter (record : Record) (keys : List String) :
    SplitByKeys keys record.flatten.entries (record.otherColumns keys)
      (record.keyColumns keys) where
  interleaving := interleaving_filter (fun column : String × Value => column.1 ∈ keys) _
  not_key := by
    intro column hcolumn
    exact of_decide_eq_true (List.mem_filter.mp hcolumn).2
  key := by
    intro column hcolumn
    exact of_decide_eq_true (List.mem_filter.mp hcolumn).2

theorem SplitByKeys.eq_filter {setting selecting : List (String × Value)}
    (h : SplitByKeys keys record.flatten.entries setting selecting) :
    setting = record.otherColumns keys ∧ selecting = record.keyColumns keys :=
  h.interleaving.eq_filter (p := fun column : String × Value => column.1 ∈ keys) h.not_key h.key

/-! ## The outcomes of an update -/

/-- An update has three outcomes, told apart by the columns. -/
theorem update_outcomes (table : String) (record : Record) (keys : List String) :
    (record.keyColumns keys = [] ∧ update table record keys = .error (.noKey table))
      ∨ (record.keyColumns keys ≠ [] ∧ record.otherColumns keys = []
        ∧ update table record keys = .error (.nothingToSet table))
      ∨ (record.keyColumns keys ≠ [] ∧ record.otherColumns keys ≠ []
        ∧ update table record keys
          = .ok (settingWhere table (record.otherColumns keys) (record.keyColumns keys))) := by
  simp only [ne_eq, keyColumns_eq_nil_iff, otherColumns_eq_nil_iff, update_eq]
  by_cases hselecting : ∀ column ∈ record.flatten.names, column ∉ keys
  · exact .inl ⟨hselecting, if_pos hselecting⟩
  · rw [if_neg hselecting]
    by_cases hsetting : ∀ column ∈ record.flatten.names, column ∈ keys
    · exact .inr (.inl ⟨hselecting, hsetting, if_pos hsetting⟩)
    · exact .inr (.inr ⟨hselecting, hsetting, if_neg hsetting⟩)

theorem update_eq_noKey_iff :
    update table record keys = .error (.noKey table)
      ↔ ∀ column ∈ record.flatten.names, column ∉ keys := by
  rw [← keyColumns_eq_nil_iff]
  rcases update_outcomes table record keys with ⟨h, hupdate⟩ | ⟨h, -, hupdate⟩ | ⟨h, -, hupdate⟩
  · exact iff_of_true hupdate h
  · rw [hupdate]
    exact iff_of_false (by simp [Error.nothingToSet]) h
  · rw [hupdate]
    exact iff_of_false (by simp) h

/-- Without columns all columns are keys as well, but then it is the key that is missed. -/
theorem update_eq_nothingToSet_iff :
    update table record keys = .error (.nothingToSet table)
      ↔ record.flatten.names ≠ [] ∧ ∀ column ∈ record.flatten.names, column ∈ keys := by
  have hnames : record.keyColumns keys ≠ [] → record.flatten.names ≠ [] := by
    rw [ne_eq, keyColumns_eq_nil_iff]
    rintro h hnil
    simp [hnil] at h
  rw [← otherColumns_eq_nil_iff]
  rcases update_outcomes table record keys with
    ⟨h, hupdate⟩ | ⟨h, hother, hupdate⟩ | ⟨h, hother, hupdate⟩
  · rw [hupdate]
    refine iff_of_false (by simp [Error.nothingToSet]) fun ⟨hne, hother⟩ => ?_
    obtain ⟨column, hcolumn⟩ := List.exists_mem_of_ne_nil _ hne
    exact keyColumns_eq_nil_iff.mp h column hcolumn
      (otherColumns_eq_nil_iff.mp hother column hcolumn)
  · exact iff_of_true hupdate ⟨hnames h, hother⟩
  · rw [hupdate]
    exact iff_of_false (by simp) fun hand => hother hand.2

theorem update_eq_ok_iff {s : Statement} :
    update table record keys = .ok s
      ↔ ∃ setting selecting, SplitByKeys keys record.flatten.entries setting selecting
        ∧ setting ≠ [] ∧ selecting ≠ [] ∧ s = settingWhere table setting selecting := by
  constructor
  · intro h
    rcases update_outcomes table record keys with
      ⟨-, hupdate⟩ | ⟨-, -, hupdate⟩ | ⟨hkey, hother, hupdate⟩ <;> rw [hupdate] at h
    · contradiction
    · contradiction
    · exact ⟨_, _, splitByKeys_filter record keys, hother, hkey, (Except.ok.inj h).symm⟩
  · rintro ⟨setting, selecting, hsplit, hsetting, hselecting, rfl⟩
    obtain ⟨rfl, rfl⟩ := hsplit.eq_filter
    rcases update_outcomes table record keys with ⟨h, -⟩ | ⟨-, h, -⟩ | ⟨-, -, hupdate⟩
    · contradiction
    · contradiction
    · exact hupdate

theorem exists_update_iff :
    (∃ s, update table record keys = .ok s)
      ↔ (∃ column ∈ record.flatten.names, column ∈ keys)
        ∧ ∃ column ∈ record.flatten.names, column ∉ keys := by
  have hkey : record.keyColumns keys ≠ [] ↔ ∃ column ∈ record.flatten.names, column ∈ keys := by
    simp [keyColumns_eq_nil_iff]
  have hother : record.otherColumns keys ≠ [] ↔ ∃ column ∈ record.flatten.names, column ∉ keys := by
    simp [otherColumns_eq_nil_iff]
  rw [← hkey, ← hother]
  rcases update_outcomes table record keys with ⟨h, hupdate⟩ | ⟨-, h, hupdate⟩ | ⟨h, h', hupdate⟩
  · exact iff_of_false (by simp [hupdate]) fun hand => hand.1 h
  · exact iff_of_false (by simp [hupdate]) fun hand => hand.2 h
  · exact iff_of_true ⟨_, hupdate⟩ ⟨h, h'⟩

/-- Keys that are the same as a set make the same update, or the same error. -/
theorem update_congr_keys {others : List String} (h : ∀ key, key ∈ others ↔ key ∈ keys) :
    update table record others = update table record keys := by
  have hkey : record.keyColumns others = record.keyColumns keys :=
    List.filter_congr fun column _ => by simp only [h]
  have hother : record.otherColumns others = record.otherColumns keys :=
    List.filter_congr fun column _ => by simp only [h]
  simp only [update_eq, h, updating, hkey, hother]

/-! ## The columns in the text -/

/-- What is read off an update is what the columns are split into. -/
theorem SplitByKeys.readsAs_update {setting selecting : List (String × Value)} {s : Statement}
    (h : SplitByKeys keys record.flatten.entries setting selecting)
    (hs : update table record keys = .ok s) (htable : '`' ∉ table.toList)
    (hcolumns : ∀ column ∈ record.flatten.names, '`' ∉ column.toList) :
    ReadsAs s .update table setting selecting := by
  obtain ⟨rfl, rfl⟩ := h.eq_filter
  rcases update_outcomes table record keys with ⟨-, hupdate⟩ | ⟨-, -, hupdate⟩ | ⟨-, -, hupdate⟩
  · rw [hupdate] at hs
    contradiction
  · rw [hupdate] at hs
    contradiction
  · obtain rfl := Except.ok.inj (hupdate.symm.trans hs)
    have hset : ∀ column ∈ Entries.names (record.otherColumns keys), '`' ∉ column.toList := by
      rw [Record.names_otherColumns]
      exact fun column hcolumn => hcolumns column (List.mem_filter.mp hcolumn).1
    have hselect : ∀ column ∈ Entries.names (record.keyColumns keys), '`' ∉ column.toList := by
      rw [Record.names_keyColumns]
      exact fun column hcolumn => hcolumns column (List.mem_filter.mp hcolumn).1
    exact readsAs_updating htable hset hselect

/-! ## The partition -/

/-- What the update of a record has to do with its insertion. -/
structure PartitionsInsertion (table : String) (record : Record) (keys : List String) : Prop where
  insertion : insert table record = inserting table record.flatten.entries
  ok_iff : ∀ s, update table record keys = .ok s
    ↔ ∃ setting selecting, SplitByKeys keys record.flatten.entries setting selecting
      ∧ setting ≠ [] ∧ selecting ≠ [] ∧ s = settingWhere table setting selecting
  exists_ok_iff : (∃ s, update table record keys = .ok s)
    ↔ (∃ column ∈ record.flatten.names, column ∈ keys)
      ∧ ∃ column ∈ record.flatten.names, column ∉ keys
  noKey_iff : update table record keys = .error (.noKey table)
    ↔ ∀ column ∈ record.flatten.names, column ∉ keys
  noKey_of_empty : record.leaves = [] ∨ keys = [] →
    update table record keys = .error (.noKey table)
  nothingToSet_iff : update table record keys = .error (.nothingToSet table)
    ↔ record.flatten.names ≠ [] ∧ ∀ column ∈ record.flatten.names, column ∈ keys
  congr_keys : ∀ others, (∀ key, key ∈ others ↔ key ∈ keys) →
    update table record others = update table record keys
  /-- The columns with their values are read off the texts and the parameters of both statements. -/
  readOff : '`' ∉ table.toList → (∀ column ∈ record.flatten.names, '`' ∉ column.toList) →
    ReadsAs (insert table record) .insert table record.flatten.entries []
      ∧ ∀ s setting selecting, update table record keys = .ok s →
        SplitByKeys keys record.flatten.entries setting selecting →
          ReadsAs s .update table setting selecting

theorem update_partitions_insertion (table : String) (record : Record) (keys : List String) :
    PartitionsInsertion table record keys where
  insertion := rfl
  ok_iff _ := update_eq_ok_iff
  exists_ok_iff := exists_update_iff
  noKey_iff := update_eq_noKey_iff
  noKey_of_empty := by
    rintro (hleaves | rfl)
    · refine update_eq_noKey_iff.mpr fun column hcolumn => ?_
      obtain ⟨leaf, hleaf, -⟩ := Record.mem_names_flatten.mp hcolumn
      rw [hleaves] at hleaf
      contradiction
    · exact update_eq_noKey_iff.mpr fun _ _ => List.not_mem_nil
  nothingToSet_iff := update_eq_nothingToSet_iff
  congr_keys _ := update_congr_keys
  readOff htable hcolumns :=
    ⟨readsAs_insert htable hcolumns,
      fun _ _ _ hs hsplit => hsplit.readsAs_update hs htable hcolumns⟩

/-- A record with two leaves of one column, its keys in another order and one of them twice, and a
key that the record does not have. -/
theorem update_partitions_insertion_shuffled :
    let user := (Row.empty.set "id" (.int 1)).set "name" (.text "Ann")
    let record := Record.row
      (((Row.empty.set "user.id" (.int 7)).setNested "user" user).set "org" (.int 3))
    insert "users" record
        = inserting "users" [("user.id", .int 1), ("user.name", .text "Ann"), ("org", .int 3)]
      ∧ update "users" record ["user.id", "org", "id"]
        = .ok (settingWhere "users" [("user.name", .text "Ann")]
          [("user.id", .int 1), ("org", .int 3)])
      ∧ update "users" record ["org", "id", "user.id", "org"]
        = update "users" record ["user.id", "org", "id"]
      ∧ update "users" record ["id"] = .error (.noKey "users")
      ∧ update "users" record ["org", "user.name", "user.id"] = .error (.nothingToSet "users") := by
  intro user record
  have hentries : record.flatten.entries
      = [("user.id", .int 1), ("user.name", .text "Ann"), ("org", .int 3)] := by rfl
  have h := update_partitions_insertion "users" record
  have hsplit : SplitByKeys ["user.id", "org", "id"] record.flatten.entries
      [("user.name", .text "Ann")] [("user.id", .int 1), ("org", .int 3)] := by
    rw [hentries]
    exact ⟨.right (.left (.right .nil)), by simp, by simp⟩
  refine ⟨hentries ▸ (h []).insertion, ?_, ?_, ?_, ?_⟩
  · exact ((h _).ok_iff _).mpr ⟨_, _, hsplit, by simp, by simp, rfl⟩
  · refine (h _).congr_keys _ fun key => ?_
    grind
  · exact (h _).noKey_iff.mpr (by decide +kernel)
  · exact (h _).nothingToSet_iff.mpr (by decide +kernel)

end Statement

end TableGateway
