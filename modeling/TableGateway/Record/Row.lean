import TableGateway.OrderedMap
import TableGateway.Value.Basic

/-!
# Rows

A row is an ordered record: each of its fields is a value or again a record. Setting a field that is
present keeps its place, removing one closes the gap. At every level the names are distinct.

Columns are the flat case, as statements take them and databases return them.
-/

namespace TableGateway

/-- Column names with their values, in order. -/
abbrev Columns := OrderedMap Value

/-- A field of a row: a value or a record of fields. -/
inductive Field where
  | value (v : Value)
  | nested (fields : List (String × Field))

namespace Field

mutual

/-- No record inside the field has two fields of one name. -/
def Distinct : Field → Prop
  | .value _ => True
  | .nested fields => (Entries.names fields).Nodup ∧ AllDistinct fields

/-- `Distinct` for all fields of a record. -/
def AllDistinct : List (String × Field) → Prop
  | [] => True
  | (_, field) :: rest => Distinct field ∧ AllDistinct rest

end

theorem allDistinct_iff {fields : List (String × Field)} :
    AllDistinct fields ↔ ∀ entry ∈ fields, entry.2.Distinct := by
  induction fields with
  | nil => simp [AllDistinct]
  | cons entry rest ih => simp [AllDistinct, ih]

theorem AllDistinct.put {name : String} {field : Field} {fields : List (String × Field)}
    (h : AllDistinct fields) (hf : field.Distinct) :
    AllDistinct (Entries.put name field fields) := by
  induction fields with
  | nil => exact ⟨hf, trivial⟩
  | cons entry rest ih =>
    obtain ⟨k, f⟩ := entry
    obtain ⟨hk, hr⟩ := h
    unfold Entries.put
    split
    · exact ⟨hf, hr⟩
    · exact ⟨hk, ih hr⟩

theorem AllDistinct.erase {name : String} {fields : List (String × Field)}
    (h : AllDistinct fields) : AllDistinct (Entries.erase name fields) := by
  rw [allDistinct_iff] at h ⊢
  intro entry he
  exact h entry (List.mem_filter.mp he).1

end Field

/-- An ordered record without repeated names, at any depth. -/
structure Row where
  fields : OrderedMap Field := .empty
  distinct : Field.AllDistinct fields.entries := by exact trivial

namespace Row

/-- The row without fields. -/
def empty : Row := {}

/-- Sets a field to a value. -/
def set (row : Row) (name : String) (value : Value) : Row :=
  ⟨row.fields.insert name (.value value), row.distinct.put trivial⟩

/-- Sets a field to a record. -/
def setNested (row : Row) (name : String) (inner : Row) : Row :=
  ⟨row.fields.insert name (.nested inner.fields.entries),
    row.distinct.put ⟨inner.fields.nodup, inner.distinct⟩⟩

/-- Removes a field. -/
def remove (row : Row) (name : String) : Row := ⟨row.fields.erase name, row.distinct.erase⟩

/-- The field of a name. -/
def field? (row : Row) (name : String) : Option Field := row.fields.get? name

/-- The number of fields at the top. -/
def size (row : Row) : Nat := row.fields.entries.length

def isEmpty (row : Row) : Bool := row.fields.entries.isEmpty

theorem names_values (entries : List (String × Value)) :
    Entries.names (entries.map fun entry => (entry.1, Field.value entry.2))
      = Entries.names entries := by
  simp [Entries.names, Function.comp_def]

theorem allDistinct_values (entries : List (String × Value)) :
    Field.AllDistinct (entries.map fun entry => (entry.1, Field.value entry.2)) := by
  rw [Field.allDistinct_iff]
  intro entry he
  obtain ⟨_, _, rfl⟩ := List.mem_map.mp he
  trivial

/-- The flat row of columns. -/
def ofColumns (columns : Columns) : Row :=
  ⟨⟨columns.entries.map fun entry => (entry.1, .value entry.2),
      by rw [names_values]; exact columns.nodup⟩,
    allDistinct_values columns.entries⟩

end Row

end TableGateway
