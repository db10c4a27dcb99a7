import TableGateway.Statement
import TableGateway.Value.Text

/-!
# Drivers

A driver carries statements to a database and brings the answers back. What the database does is its
own affair: it has a state of some type, and a driver turns that state into an answer or an error
and a new state.

A driver also quotes values, since databases differ in how literals are written.
-/

namespace TableGateway

/-- An answer or an error of a database with states `σ`, and its state afterwards. -/
abbrev Reply (σ α : Type) := σ → Except Error α × σ

class Driver (δ : Type) (σ : outParam Type) where
  /-- Runs a statement and answers how many rows it affected. -/
  execute : δ → Statement → Reply σ Nat
  /-- Runs a query and answers all of its rows. -/
  query : δ → Statement → Reply σ (List Columns)
  /-- The id that the last insertion generated, for a named sequence where one is given. -/
  lastInsertId : δ → Option String → Reply σ (Option String)
  /-- The literal of a value. -/
  quote : δ → Value → String := fun _ v => v.literal

/-- The two ways to run a statement. -/
inductive Method where
  | execute
  | query
  deriving DecidableEq, Repr

/-- The name of a method. -/
def Method.name : Method → String
  | .execute => "execute"
  | .query => "query"

end TableGateway
