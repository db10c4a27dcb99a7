import TableGateway.Json.Basic
import TableGateway.Record.Row
import TableGateway.Value.Json

/-!
# Records

A record is what can be stored: a row, columns as a database returned them, or a JSON document. A
JSON object is read as a row, any other document as a row without fields.

A record is read in three ways: `has` asks for a name at the top, `get?` for the value there, and
`leaves` lists all values with the paths that lead to them, depth first and in order.
-/

namespace TableGateway

inductive Record where
  | row (row : Row)
  | columns (columns : Columns)
  | document (document : Json.Document)

/-- A value and the names that lead to it. -/
abbrev Leaf := List String × Value

/-! ## Rows -/

mutual

/-- The leaves of a field whose own path is `path`. -/
def Field.leaves (path : List String) : Field → List Leaf
  | .value v => [(path, v)]
  | .nested fields => Field.allLeaves path fields

/-- The leaves of the fields of a record whose own path is `path`. -/
def Field.allLeaves (path : List String) : List (String × Field) → List Leaf
  | [] => []
  | (name, field) :: rest => Field.leaves (path ++ [name]) field ++ Field.allLeaves path rest

end

namespace Row

def has (row : Row) (name : String) : Bool := row.fields.contains name

/-- The value of a field; none where the field is a record. -/
def get? (row : Row) (name : String) : Option Value :=
  match row.field? name with
  | some (.value v) => some v
  | some (.nested _) | none => none

def leaves (row : Row) : List Leaf := Field.allLeaves [] row.fields.entries

end Row

/-! ## Columns -/

namespace Columns

def leaves (columns : Columns) : List Leaf :=
  columns.entries.map fun entry => ([entry.1], entry.2)

end Columns

/-! ## JSON documents -/

namespace Json

/-- The members of an object; other trees have none. -/
def members : Json → List (String × Json)
  | .object members => members
  | _ => []

mutual

/-- The leaves of a member whose own path is `path`; everything but an object is a leaf. -/
def leavesAt (path : List String) : Json → List Leaf
  | .object members => memberLeaves path members
  | j => [(path, Value.ofJson j)]

/-- The leaves of the members of an object whose own path is `path`. -/
def memberLeaves (path : List String) : List (String × Json) → List Leaf
  | [] => []
  | (name, value) :: rest => leavesAt (path ++ [name]) value ++ memberLeaves path rest

end

namespace Document

def has (document : Document) (name : String) : Bool :=
  (Entries.find? name document.tree.members).isSome

/-- The value of a member; none where the member is an object. -/
def get? (document : Document) (name : String) : Option Value :=
  match Entries.find? name document.tree.members with
  | some (.object _) | none => none
  | some j => some (Value.ofJson j)

def leaves (document : Document) : List Leaf := memberLeaves [] document.tree.members

end Document

end Json

/-! ## Reading records -/

namespace Record

/-- Whether the record has a field of this name at the top. -/
def has : Record → String → Bool
  | .row r, name => r.has name
  | .columns c, name => c.contains name
  | .document d, name => d.has name

/-- The value of the field of this name at the top, if there is one. -/
def get? : Record → String → Option Value
  | .row r, name => r.get? name
  | .columns c, name => c.get? name
  | .document d, name => d.get? name

/-- All values with their paths, depth first. -/
def leaves : Record → List Leaf
  | .row r => r.leaves
  | .columns c => c.leaves
  | .document d => d.leaves

end Record

end TableGateway
