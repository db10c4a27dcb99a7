import TableGateway.Gateway.Basic

/-!
# Commands

The operations of a gateway as data, so that whole runs can be written down and spoken about.
-/

namespace TableGateway

/-- An operation of a gateway. -/
inductive Command where
  | insert (record : Record)
  | update (record : Record) (keys : List String)
  | delete (record : Record) (keys : List String)
  | deleteById (id : Value) (key : Option String)
  | save (record : Record) (keys : List String)
  | exec (statement : Statement)
  | query (select : Select)
  | findOne (select : Select)
  | findAll (select : Select)
  | findById (id : Value) (key : Option String)
  | count (select : Select) (field : Option String)
  | lastInsertId (sequence : Option String)

/-- What an operation returns. -/
inductive Answer (α : Type) where
  | affected (count : Nat)
  | saved (action : Saving)
  | columns (rows : List Columns)
  | one (found : Option α)
  | all (found : List α)
  | count (n : Int64)
  | id (generated : Option String)

variable {δ σ α : Type} [Driver δ σ]

/-- Runs an operation. -/
def Gateway.perform (g : Gateway δ α) : Command → Action δ σ (Answer α)
  | .insert record => .affected <$> g.insert record
  | .update record keys => .affected <$> g.update record keys
  | .delete record keys => .affected <$> g.delete record keys
  | .deleteById id key => .affected <$> g.deleteById id key
  | .save record keys => .saved <$> g.save record keys
  | .exec statement => .affected <$> g.exec statement
  | .query select => .columns <$> g.query select
  | .findOne select => .one <$> g.findOne select
  | .findAll select => .all <$> g.findAll select
  | .findById id key => .one <$> g.findById id key
  | .count select field => .count <$> g.count select field
  | .lastInsertId sequence => .id <$> g.lastInsertId sequence

end TableGateway
