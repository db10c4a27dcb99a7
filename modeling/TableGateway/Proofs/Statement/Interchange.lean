import TableGateway.Proofs.Record.Leaves
import TableGateway.Statement

/-!
# Records that are interchangeable

The leaves of a record tell its columns, and what it reads back at the top. Statements, their errors
and the decision to insert or to update are made from these alone, so records with the same leaves
cannot be told apart by any of them. A JSON object and the row that it describes have the same
leaves, and the same names at the top besides.

Main statements: `get?_congr`, `update_congr`, `interchangeable_of_leaves`,
`document_interchangeable`.
-/

namespace TableGateway

variable {first second : Record}

namespace Record

theorem get?_congr (h : first.leaves = second.leaves) (name : String) :
    first.get? name = second.get? name := by
  ext v
  rw [get?_eq_some_iff, get?_eq_some_iff, h]

/-- An insertion is made from the columns of its record. -/
theorem insert_congr (h : first.flatten = second.flatten) (table : String) :
    Statement.insert table first = Statement.insert table second := by
  unfold Statement.insert
  rw [h]

/-- An update is made from the columns of its record, and so is its error. -/
theorem update_congr (h : first.flatten = second.flatten) (table : String) (keys : List String) :
    Statement.update table first keys = Statement.update table second keys := by
  unfold Statement.update
  rw [h]

/-- Neither the readings nor anything that is made of them tells the records apart. -/
structure Interchangeable (first second : Record) : Prop where
  has : ∀ name, first.has name = second.has name
  get? : ∀ name, first.get? name = second.get? name
  leaves : first.leaves = second.leaves
  insert : ∀ table, Statement.insert table first = Statement.insert table second
  update : ∀ table keys, Statement.update table first keys = Statement.update table second keys
  delete : ∀ table keys, Statement.delete table first keys = Statement.delete table second keys
  saving : ∀ keys, Saving.of first keys = Saving.of second keys

/-- Which names stand at the top is not told by the leaves, since an empty record has none. -/
theorem interchangeable_of_leaves (hhas : ∀ name, first.has name = second.has name)
    (hleaves : first.leaves = second.leaves) : first.Interchangeable second := by
  have hget := get?_congr hleaves
  have hflatten : first.flatten = second.flatten := congrArg Columns.ofLeaves hleaves
  refine ⟨hhas, hget, hleaves, insert_congr hflatten, update_congr hflatten, fun table keys => ?_,
    fun keys => ?_⟩
  · simp only [Statement.delete, hget]
  · simp only [Saving.of, hget]

/-- A JSON document and the row that it describes are interchangeable: its members are the fields,
in their order, objects among them are records again and everything else is a value. -/
theorem document_interchangeable (document : Json.Document) :
    (Record.document document).Interchangeable (.row (.ofDocument document)) :=
  interchangeable_of_leaves (fun name => (has_toRow (.document document) name).symm)
    (leaves_toRow (.document document)).symm

/-- An object is a record as a member, also when it is empty, and text as an item of an array. -/
example :
    Row.ofDocument ⟨.object [("id", .null), ("tags", .array [.object []]), ("at", .object [])],
        by decide, trivial, ⟨⟨by decide, trivial⟩, trivial⟩, ⟨by decide, trivial⟩, trivial⟩
      = let row := (Row.empty.set "id" .null).set "tags" (.list [.text "\x7b\x7d"])
        row.setNested "at" .empty := by
  rfl

end Record

end TableGateway
