import TableGateway.Proofs.Record.Lookup
import TableGateway.Record.Basic

/-!
# Every record reads as a row

A JSON object describes a row: its members are the fields, in their order, where an object is a
record again and everything else is a value. A document that is no object describes the row without
fields, and columns are a flat row. A record of any kind and the row that it describes have the same
names at the top, the same values there, and the same leaves in the same order.

Main statements: `has_toRow`, `get?_toRow`, `leaves_toRow`.
-/

namespace TableGateway

/-! ## Members as fields -/

namespace Field

mutual

/-- The field that a member describes: an object is a record, everything else a value. -/
def ofJson : Json → Field
  | .object members => .nested (allOfJson members)
  | j => .value (Value.ofJson j)

/-- The fields that the members of an object describe. -/
def allOfJson : List (String × Json) → List (String × Field)
  | [] => []
  | (name, j) :: rest => (name, ofJson j) :: allOfJson rest

end

theorem allOfJson_eq_map (members : List (String × Json)) :
    allOfJson members = members.map fun member => (member.1, ofJson member.2) := by
  induction members with
  | nil => rfl
  | cons member rest ih => rw [allOfJson, ih, List.map_cons]

theorem names_allOfJson (members : List (String × Json)) :
    Entries.names (allOfJson members) = Entries.names members := by
  simp [allOfJson_eq_map, Entries.names, Function.comp_def]

theorem find?_allOfJson (name : String) (members : List (String × Json)) :
    Entries.find? name (allOfJson members) = (Entries.find? name members).map ofJson := by
  rw [allOfJson_eq_map, Entries.find?_map]

/-- Only an object describes a record. -/
theorem ofJson_eq_nested_iff {j : Json} {fields : List (String × Field)} :
    ofJson j = .nested fields ↔ ∃ members, j = .object members ∧ fields = allOfJson members := by
  cases j <;> simp [ofJson, eq_comm]

mutual

theorem distinct_ofJson : ∀ {j : Json}, j.Distinct → (ofJson j).Distinct
  | .object members, h => by
    refine ⟨?_, allDistinct_allOfJson h.2⟩
    rw [names_allOfJson]
    exact h.1
  | .null, _ | .bool _, _ | .number _, _ | .string _, _ | .array _, _ => trivial

theorem allDistinct_allOfJson : ∀ {members : List (String × Json)},
    Json.MembersDistinct members → AllDistinct (allOfJson members)
  | [], _ => trivial
  | (_, _) :: _, h => ⟨distinct_ofJson h.1, allDistinct_allOfJson h.2⟩

end

mutual

/-- A member has the leaves of the field that it describes. -/
theorem leaves_ofJson : ∀ (j : Json) (path : List String),
    (ofJson j).leaves path = j.leavesAt path
  | .object members, path => allLeaves_allOfJson members path
  | .null, _ | .bool _, _ | .number _, _ | .string _, _ | .array _, _ => rfl

theorem allLeaves_allOfJson : ∀ (members : List (String × Json)) (path : List String),
    allLeaves path (allOfJson members) = Json.memberLeaves path members
  | [], _ => rfl
  | (name, j) :: rest, path => by
    rw [allOfJson, allLeaves, Json.memberLeaves, leaves_ofJson, allLeaves_allOfJson]

end

end Field

/-! ## Documents and columns as rows -/

namespace Json.Document

theorem nodup_members (document : Document) : (Entries.names document.tree.members).Nodup := by
  obtain ⟨tree, distinct⟩ := document
  cases tree with
  | object members => exact distinct.1
  | _ => exact List.nodup_nil

theorem distinct_members (document : Document) : MembersDistinct document.tree.members := by
  obtain ⟨tree, distinct⟩ := document
  cases tree with
  | object members => exact distinct.2
  | _ => trivial

end Json.Document

/-- The row that a document describes. -/
def Row.ofDocument (document : Json.Document) : Row where
  fields.entries := Field.allOfJson document.tree.members
  fields.nodup := by
    rw [Field.names_allOfJson]
    exact document.nodup_members
  distinct := Field.allDistinct_allOfJson document.distinct_members

namespace Record

/-- The row that a record describes. -/
def toRow : Record → Row
  | .row r => r
  | .columns c => .ofColumns c
  | .document d => .ofDocument d

/-- The fields of columns are their values. -/
theorem field?_ofColumns (columns : Columns) (name : String) :
    (Row.ofColumns columns).field? name = (columns.get? name).map .value :=
  Entries.find?_map Field.value name columns.entries

theorem field?_ofDocument (document : Json.Document) (name : String) :
    (Row.ofDocument document).field? name
      = (Entries.find? name document.tree.members).map .ofJson :=
  Field.find?_allOfJson name document.tree.members

/-- A record has the names of its row at the top. -/
theorem has_toRow (record : Record) (name : String) : record.toRow.has name = record.has name := by
  cases record with
  | row row => rfl
  | columns columns =>
    show ((Row.ofColumns columns).field? name).isSome = (columns.get? name).isSome
    rw [field?_ofColumns, Option.isSome_map]
  | document document =>
    show ((Row.ofDocument document).field? name).isSome
      = (Entries.find? name document.tree.members).isSome
    rw [field?_ofDocument, Option.isSome_map]

/-- A record reads back the values of its row at the top. -/
theorem get?_toRow (record : Record) (name : String) :
    record.toRow.get? name = record.get? name := by
  cases record with
  | row row => rfl
  | columns columns =>
    show (Row.ofColumns columns).get? name = columns.get? name
    rw [Row.get?, field?_ofColumns]
    cases columns.get? name <;> rfl
  | document document =>
    show (Row.ofDocument document).get? name = document.get? name
    rw [Row.get?, field?_ofDocument, Json.Document.get?]
    cases Entries.find? name document.tree.members with
    | none => rfl
    | some j => cases j <;> rfl

/-- The leaves of a flat row are its columns. -/
theorem leaves_ofColumns (columns : Columns) : (Row.ofColumns columns).leaves = columns.leaves := by
  show Field.allLeaves [] (columns.entries.map fun entry => (entry.1, Field.value entry.2))
    = columns.entries.map fun entry => ([entry.1], entry.2)
  induction columns.entries with
  | nil => rfl
  | cons entry rest ih =>
    rw [List.map_cons, Field.allLeaves, ih]
    rfl

/-- A record has the leaves of its row, in the same order. -/
theorem leaves_toRow (record : Record) : record.toRow.leaves = record.leaves := by
  cases record with
  | row row => rfl
  | columns columns => exact leaves_ofColumns columns
  | document document => exact Field.allLeaves_allOfJson document.tree.members []

end Record

end TableGateway
