import TableGateway.Proofs.Record.Columns

/-!
# Paths read back from columns

Joining the names of a path by dots loses nothing as long as no name has a dot: splitting the column
at its dots gives the names again, empty ones included. If no name of a record has a dot, at any
level, then the leaves have columns of their own, in the order of the leaves, and the leaves can be
read off the columns.

Main statements: `columnPath_columnName`, `entries_flatten`, `leaves_recovered`.
-/

namespace TableGateway

/-! ## Names at all levels -/

namespace Field

mutual

/-- All names inside the field, at any level, have a property. -/
def Named (p : String → Prop) : Field → Prop
  | .value _ => True
  | .nested fields => AllNamed p fields

/-- All names of a record and inside its fields have a property. -/
def AllNamed (p : String → Prop) : List (String × Field) → Prop
  | [] => True
  | (name, field) :: rest => p name ∧ Named p field ∧ AllNamed p rest

end

end Field

namespace Json

mutual

/-- All names of fields inside the member, at any level, have a property. An array is a value, so
the names in its items are no names of fields. -/
def Named (p : String → Prop) : Json → Prop
  | .object members => MembersNamed p members
  | .null | .bool _ | .number _ | .string _ | .array _ => True

/-- All names of an object and inside its members have a property. -/
def MembersNamed (p : String → Prop) : List (String × Json) → Prop
  | [] => True
  | (name, value) :: rest => p name ∧ Named p value ∧ MembersNamed p rest

end

end Json

/-- All names of the record, at any level, have a property. -/
def Record.Named (p : String → Prop) : Record → Prop
  | .row r => Field.AllNamed p r.fields.entries
  | .columns c => ∀ name ∈ c.names, p name
  | .document d => Json.MembersNamed p d.tree.members

variable {p : String → Prop}

namespace Field

mutual

theorem named_ofJson : ∀ {j : Json}, j.Named p → (ofJson j).Named p
  | .object _, h => allNamed_allOfJson h
  | .null, _ | .bool _, _ | .number _, _ | .string _, _ | .array _, _ => trivial

theorem allNamed_allOfJson : ∀ {members : List (String × Json)},
    Json.MembersNamed p members → AllNamed p (allOfJson members)
  | [], _ => trivial
  | (_, _) :: _, h => ⟨h.1, named_ofJson h.2.1, allNamed_allOfJson h.2.2⟩

end

theorem allNamed_values {entries : List (String × Value)}
    (h : ∀ name ∈ Entries.names entries, p name) :
    AllNamed p (entries.map fun entry => (entry.1, Field.value entry.2)) := by
  induction entries with
  | nil => trivial
  | cons entry rest ih =>
    rw [Entries.names_cons, List.forall_mem_cons] at h
    exact ⟨h.1, trivial, ih h.2⟩

mutual

/-- The path of a leaf is made of names inside its field, behind the path of the field. -/
theorem forall_mem_path : ∀ {field : Field} {path : List String} {leaf : Leaf}, field.Named p →
    (∀ name ∈ path, p name) → leaf ∈ field.leaves path → ∀ name ∈ leaf.1, p name
  | .value _, path, leaf, _, hpath, hleaf => by
    rw [leaves, List.mem_singleton] at hleaf
    rw [hleaf]
    exact hpath
  | .nested _, _, _, h, hpath, hleaf => forall_mem_path_of_all h hpath hleaf

theorem forall_mem_path_of_all : ∀ {fields : List (String × Field)} {path : List String}
    {leaf : Leaf}, AllNamed p fields → (∀ name ∈ path, p name) → leaf ∈ allLeaves path fields →
    ∀ name ∈ leaf.1, p name
  | [], _, _, _, _, hleaf => absurd hleaf List.not_mem_nil
  | (name, field) :: rest, path, leaf, h, hpath, hleaf => by
    rw [allLeaves, List.mem_append] at hleaf
    rcases hleaf with hleaf | hleaf
    · refine forall_mem_path h.2.1 ?_ hleaf
      intro other hother
      rcases List.mem_append.mp hother with hother | hother
      · exact hpath other hother
      · rw [List.mem_singleton.mp hother]
        exact h.1
    · exact forall_mem_path_of_all h.2.2 hpath hleaf

end

end Field

namespace Record

variable {record : Record}

theorem Named.toRow (h : record.Named p) : Field.AllNamed p record.toRow.fields.entries := by
  cases record with
  | row row => exact h
  | columns columns => exact Field.allNamed_values h
  | document document => exact Field.allNamed_allOfJson h

theorem Named.forall_mem_path {leaf : Leaf} (h : record.Named p) (hleaf : leaf ∈ record.leaves) :
    ∀ name ∈ leaf.1, p name := by
  rw [← leaves_toRow] at hleaf
  exact Field.forall_mem_path_of_all h.toRow (by simp) hleaf

end Record

/-! ## Paths and columns -/

/-- A name without a dot. -/
def DotFree (name : String) : Prop := '.' ∉ name.toList

instance (name : String) : Decidable (DotFree name) := inferInstanceAs (Decidable (¬ _))

/-- The path that a column spells out, if its names have no dots. -/
def columnPath (column : String) : List String := (column.toList.splitOn '.').map String.ofList

/-- A path of names without dots is read back from its column. -/
theorem columnPath_columnName {path : List String} (hne : path ≠ [])
    (h : ∀ name ∈ path, DotFree name) : columnPath (columnName path) = path := by
  have hdot : ".".toList = ['.'] := rfl
  have hfree : ∀ name ∈ path.map String.toList, '.' ∉ name := by
    intro name hname
    obtain ⟨_, hmem, rfl⟩ := List.mem_map.mp hname
    exact h _ hmem
  rw [columnPath, columnName, String.toList_intercalate, hdot,
    List.splitOn_intercalate '.' hfree (by simpa using hne), List.map_map]
  have hid : String.ofList ∘ String.toList = id := by
    funext name
    exact String.ofList_toList
  rw [hid, List.map_id]

namespace Record

variable {record : Record}

theorem columnPath_of_mem_leaves {leaf : Leaf} (h : record.Named DotFree)
    (hleaf : leaf ∈ record.leaves) : columnPath (columnName leaf.1) = leaf.1 :=
  columnPath_columnName (path_ne_nil hleaf) (h.forall_mem_path hleaf)

theorem map_columnPath_paths (h : record.Named DotFree) :
    (record.paths.map columnName).map columnPath = record.paths := by
  rw [paths, List.map_map, List.map_map]
  exact List.map_congr_left fun _ hleaf => columnPath_of_mem_leaves h hleaf

/-- Paths that are read back from their columns make different columns. -/
theorem nodup_columns (h : record.Named DotFree) : (record.paths.map columnName).Nodup := by
  have hpaths := record.nodup_paths
  rw [← map_columnPath_paths h] at hpaths
  refine List.Pairwise.of_map columnPath ?_ hpaths
  intro first second hne heq
  exact hne (congrArg columnPath heq)

/-- If no name has a dot then each leaf has a column of its own, in the order of the leaves. -/
theorem entries_flatten (h : record.Named DotFree) :
    record.flatten.entries
      = record.leaves.map fun leaf => (columnName leaf.1, leaf.2.normalized) :=
  entries_flatten_of_nodup (nodup_columns h)

/-- If no name of a record has a dot, at whichever level, then flattening loses nothing: each leaf
has one column with its value, in the order of the leaves, and splitting the columns gives back the
paths. -/
theorem leaves_recovered (h : record.Named DotFree) :
    record.flatten.entries
        = record.leaves.map (fun leaf => (columnName leaf.1, leaf.2.normalized))
      ∧ (∀ leaf ∈ record.leaves, columnPath (columnName leaf.1) = leaf.1)
      ∧ record.flatten.entries.map (fun column => (columnPath column.1, column.2))
        = record.leaves.map fun leaf => (leaf.1, leaf.2.normalized) := by
  have hpath : ∀ leaf ∈ record.leaves, columnPath (columnName leaf.1) = leaf.1 :=
    fun _ hleaf => columnPath_of_mem_leaves h hleaf
  refine ⟨entries_flatten h, hpath, ?_⟩
  rw [entries_flatten h, List.map_map]
  refine List.map_congr_left fun leaf hleaf => ?_
  exact congrArg (·, leaf.2.normalized) (hpath leaf hleaf)

/-- A row with empty names at two levels, and a document with an object inside of an array, where a
dot does no harm. -/
theorem leaves_recovered_empty :
    let row := Record.row ((Row.empty.setNested "" (Row.empty.set "" .null)).setNested "a"
      ((Row.empty.set "" (.int 1)).set "b" (.int 2)))
    let document := Record.document
      ⟨.object [("", .object [("", .bool true)]), ("tags", .array [.object [("x.y", .null)]])],
        by decide, ⟨by decide, trivial, trivial⟩, ⟨⟨by decide, trivial, trivial⟩, trivial⟩, trivial⟩
    row.Named DotFree ∧ document.Named DotFree
      ∧ row.flatten.names = [".", "a.", "a.b"]
      ∧ row.flatten.entries.map (fun column => (columnPath column.1, column.2))
        = [(["", ""], .null), (["a", ""], .int 1), (["a", "b"], .int 2)]
      ∧ document.flatten.entries.map (fun column => (columnPath column.1, column.2))
        = [(["", ""], .bool true), (["tags"], .list [.text "\x7b\"x.y\":null\x7d"])] := by
  intro row document
  have hrow : row.Named DotFree :=
    ⟨by decide, ⟨by decide, trivial, trivial⟩, by decide,
      ⟨by decide, trivial, by decide, trivial, trivial⟩, trivial⟩
  have hdocument : document.Named DotFree :=
    ⟨by decide, ⟨by decide, trivial, trivial⟩, by decide, trivial, trivial⟩
  exact ⟨hrow, hdocument, by decide +kernel, (leaves_recovered hrow).2.2,
    (leaves_recovered hdocument).2.2⟩

end Record

end TableGateway
