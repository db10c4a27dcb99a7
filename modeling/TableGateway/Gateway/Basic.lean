import TableGateway.Gateway.Session
import TableGateway.KeyRules
import TableGateway.Select.Builder
import TableGateway.Select.Render

/-!
# Table gateways

A gateway gives access to one table: it has a driver, the rules for the table's keys, and a way to
build what it returns from the columns of a fetched row.

Every operation puts its statement together first; if that fails nothing is reported or sent. Then
the statement is reported, with the beginning of its text, and sent.
-/

namespace TableGateway

structure Gateway (δ α : Type) where
  driver : δ
  table : String
  keys : KeyRules := .standard
  build : Columns → α

namespace Gateway

variable {δ σ α β : Type}

/-- The gateway to a table that returns rows. -/
def toTable (driver : δ) (table : String) : Gateway δ Row := { driver, table, build := .ofColumns }

/-- The gateway with another way to build what it returns. -/
def building (g : Gateway δ α) (build : Columns → β) : Gateway δ β := { g with build }

/-! ## Settings -/

/-- A change of what a gateway works with. -/
inductive Setting (δ : Type) where
  | table (table : String)
  | driver (driver : δ)
  | keys (keys : KeyRules)
  | mappings (mappings : OrderedMap TableKey)
  | scheme (scheme : String)

/-- The gateway after a change. -/
def configure (g : Gateway δ α) : Setting δ → Gateway δ α
  | .table table => { g with table }
  | .driver driver => { g with driver }
  | .keys keys => { g with keys }
  | .mappings mappings => { g with keys := g.keys.withMappings mappings }
  | .scheme scheme => { g with keys := g.keys.withScheme scheme }

/-! ## Keys -/

/-- The keys of the gateway's table. -/
def resolveKeys (g : Gateway δ α) (explicit : List String) : List String :=
  g.keys.resolve g.table explicit

/-- The key for access by a single value: the given one if it is not empty, else the only key of
the table. -/
def keyForId (g : Gateway δ α) : Option String → Except Error String
  | some key => if key.isEmpty then Statement.onlyKey g.table (g.resolveKeys []) else .ok key
  | none => Statement.onlyKey g.table (g.resolveKeys [])

variable [Driver δ σ]

/-! ## Sending -/

/-- Reports a statement. -/
def report (g : Gateway δ α) (operation : Operation) (statement : Statement) : Action δ σ Unit :=
  Action.note (.event (.statement operation g.table statement.params.length
    (excerpt loggedBytes statement.sql)))

/-- Reports and executes a statement. -/
def execute (g : Gateway δ α) (operation : Operation) (statement : Statement) :
    Action δ σ Nat := do
  g.report operation statement
  Action.note (.call g.driver .execute statement)
  Action.ask (Driver.execute g.driver statement)

/-- Reports a query and fetches its rows. -/
def fetch (g : Gateway δ α) (operation : Operation) (statement : Statement) :
    Action δ σ (List Columns) := do
  g.report operation statement
  Action.note (.call g.driver .query statement)
  Action.ask (Driver.query g.driver statement)

/-! ## Writing -/

/-- Inserts a record and returns the number of affected rows. -/
def insert (g : Gateway δ α) (record : Record) : Action δ σ Nat :=
  g.execute .insert (.insert g.table record)

/-- Updates a record by its keys. -/
def update (g : Gateway δ α) (record : Record) (keys : List String) : Action δ σ Nat := do
  let statement ← Statement.update g.table record (g.resolveKeys keys)
  g.execute .update statement

/-- Deletes a record by its keys. -/
def delete (g : Gateway δ α) (record : Record) (keys : List String) : Action δ σ Nat := do
  let statement ← Statement.delete g.table record (g.resolveKeys keys)
  g.execute .delete statement

/-- Deletes the record with a key value. -/
def deleteById (g : Gateway δ α) (id : Value) (key : Option String) : Action δ σ Nat := do
  let key ← g.keyForId key
  g.execute .deleteById (.deleteById g.table key id)

/-- Inserts a record if it is new and updates it otherwise. -/
def save (g : Gateway δ α) (record : Record) (keys : List String) : Action δ σ Saving := do
  let action := Saving.of record (g.resolveKeys keys)
  match action with
  | .insert => discard (g.insert record)
  | .update keys => discard (g.update record keys)
  return action

/-- Executes a statement as it is given. -/
def exec (g : Gateway δ α) (statement : Statement) : Action δ σ Nat := g.execute .exec statement

/-! ## Reading -/

/-- A builder for queries on the gateway's table, with the driver's literals. -/
def select (g : Gateway δ α) : Select.Builder :=
  { quote := Driver.quote g.driver, select := .ofTable g.table }

/-- The columns of all rows of a query. -/
def query (g : Gateway δ α) (s : Select) : Action δ σ (List Columns) :=
  g.fetch .query { sql := s.toSql }

/-- The first row of a query, if it has one. -/
def findOne (g : Gateway δ α) (s : Select) : Action δ σ (Option α) := do
  let rows ← g.fetch .findOne { sql := s.toSql }
  return rows.head?.map g.build

/-- All rows of a query. -/
def findAll (g : Gateway δ α) (s : Select) : Action δ σ (List α) := do
  let rows ← g.fetch .findAll { sql := s.toSql }
  return rows.map g.build

/-- The row with a key value, if there is one. -/
def findById (g : Gateway δ α) (id : Value) (key : Option String) : Action δ σ (Option α) := do
  let key ← g.keyForId key
  let rows ← g.fetch .findById (.findById g.table key id)
  return rows.head?.map g.build

/-- The number that a count returned, in the first column of its first row. A count that returned
nothing is zero. -/
def countOf (rows : List Columns) : Except Error Int64 :=
  match rows.head?.bind fun columns => columns.entries.head? with
  | none => .ok 0
  | some (column, v) =>
    match v.toInt64? with
    | some n => .ok n
    | none => .error (.notACount column v.plainText)

/-- The number of rows of a query, or of the distinct values of a field of it. -/
def count (g : Gateway δ α) (s : Select) (field : Option String) : Action δ σ Int64 := do
  let rows ← g.fetch .count { sql := (s.counted field).toSql }
  countOf rows

/-- The id that the last insertion generated. -/
def lastInsertId (g : Gateway δ α) (sequence : Option String) : Action δ σ (Option String) :=
  Action.ask (Driver.lastInsertId g.driver sequence)

end Gateway

end TableGateway
