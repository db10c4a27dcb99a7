import TableGateway.Proofs.Record.Columns

/-!
# The place of the first leaf, the value of the last

The leaves of a record come depth first: those of its first field, then those of the second, and so
on, where a field that is a record has the leaves of this record, each one name further down. The
columns stand in the order in which the leaves reach them for the first time. A later leaf of the
same column, from whichever depth, does not move it and takes over its value.

Of a value, only a date and time becomes text on the way into a column; a list keeps its items as
they are, date and times among them.

Main statements: `leaves_eq_depthFirst`, `mem_entries_flatten_iff`, `flatten_firstPlace_lastValue`.
-/

namespace TableGateway

/-! ## Depth first -/

namespace Field

mutual

/-- The leaves of a field as seen from the field. -/
def ownLeaves : Field → List Leaf
  | .value v => [([], v)]
  | .nested fields => depthFirst fields

/-- The leaves of a record as seen from the record: what the fields see, below their names. -/
def depthFirst : List (String × Field) → List Leaf
  | [] => []
  | (name, field) :: rest => (ownLeaves field).map (Leaf.below [name]) ++ depthFirst rest

end

theorem below_comp_below (path : List String) (name : String) :
    Leaf.below path ∘ Leaf.below [name] = Leaf.below (path ++ [name]) := by
  funext leaf
  simp [Leaf.below]

mutual

/-- A path that is carried down a field comes before what the field sees. -/
theorem leaves_eq_map_ownLeaves : ∀ (field : Field) (path : List String),
    field.leaves path = (ownLeaves field).map (Leaf.below path)
  | .value v, path => by simp [leaves, ownLeaves, Leaf.below]
  | .nested fields, path => allLeaves_eq_map_depthFirst fields path

theorem allLeaves_eq_map_depthFirst : ∀ (fields : List (String × Field)) (path : List String),
    allLeaves path fields = (depthFirst fields).map (Leaf.below path)
  | [], _ => rfl
  | (name, field) :: rest, path => by
    rw [allLeaves, depthFirst, List.map_append, List.map_map, below_comp_below,
      leaves_eq_map_ownLeaves, allLeaves_eq_map_depthFirst]

end

theorem depthFirst_eq_flatMap (fields : List (String × Field)) :
    depthFirst fields
      = fields.flatMap fun entry => (ownLeaves entry.2).map (Leaf.below [entry.1]) := by
  induction fields with
  | nil => rfl
  | cons entry rest ih => rw [depthFirst, ih, List.flatMap_cons]

end Field

/-! ## Values on their way into a column -/

/-- A date and time is stored as its text, everything else as it is. -/
inductive Value.StoredAs : Value → Value → Prop where
  | dateTime (t : DateTime) : StoredAs (.dateTime t) (.text t.text)
  | same {v : Value} (h : ∀ t, v ≠ .dateTime t) : StoredAs v v

theorem Value.storedAs_iff {v stored : Value} : v.StoredAs stored ↔ stored = v.normalized := by
  constructor
  · rintro (t | h)
    · rfl
    · cases v with
      | dateTime t => exact absurd rfl (h t)
      | _ => rfl
  · rintro rfl
    cases v with
    | dateTime t => exact .dateTime t
    | _ => exact .same (by simp)

namespace Record

variable {record : Record} {column : String} {v : Value}

theorem leaves_eq_depthFirst (record : Record) :
    record.leaves = Field.depthFirst record.toRow.fields.entries := by
  have hbelow : Leaf.below [] = id := rfl
  rw [← leaves_toRow, Row.leaves, Field.allLeaves_eq_map_depthFirst, hbelow, List.map_id]

/-- A column holds what its last leaf is stored as. -/
theorem mem_entries_flatten_iff :
    (column, v) ∈ record.flatten.entries
      ↔ ∃ leaf, record.lastLeaf? column = some leaf ∧ leaf.2.StoredAs v := by
  rw [← Entries.find?_eq_some_iff record.flatten.nodup]
  show record.flatten.get? column = some v ↔ _
  rw [get?_flatten, Option.map_eq_some_iff]
  simp only [Value.storedAs_iff, eq_comm]

/-- The columns of a record, by its leaves. -/
structure FirstPlaceLastValue (record : Record) : Prop where
  leaves_eq : record.leaves = Field.depthFirst record.toRow.fields.entries
  /-- Columns stand where the first leaf puts them. -/
  names_eq : record.flatten.names = (record.leaves.map fun leaf => columnName leaf.1).eraseDups
  nodup_names : record.flatten.names.Nodup
  /-- Columns hold what the last leaf leaves there. -/
  mem_entries_iff : ∀ column v, (column, v) ∈ record.flatten.entries
    ↔ ∃ leaf, record.lastLeaf? column = some leaf ∧ leaf.2.StoredAs v
  list_kept : ∀ column path items, record.lastLeaf? column = some (path, .list items) →
    (column, .list items) ∈ record.flatten.entries

theorem flatten_firstPlace_lastValue (record : Record) : record.FirstPlaceLastValue where
  leaves_eq := leaves_eq_depthFirst record
  names_eq := by rw [names_flatten, paths, List.map_map]; rfl
  nodup_names := record.flatten.nodup
  mem_entries_iff _ _ := mem_entries_flatten_iff
  list_kept _ _ _ h := mem_entries_flatten_iff.mpr ⟨_, h, .same (by simp)⟩

/-- Three leaves of one column, at three depths: it stays in front and has the last value. -/
example (t : DateTime) :
    let deepest := Row.empty.set "c" (.dateTime t)
    let inner := (Row.empty.set "b.c" (.int 2)).setNested "b" deepest
    let row := ((Row.empty.set "a.b.c" (.int 1)).set "d" (.list [.dateTime t])).setNested "a" inner
    (Record.row row).flatten.entries = [("a.b.c", .text t.text), ("d", .list [.dateTime t])] := by
  rfl

end Record

end TableGateway
