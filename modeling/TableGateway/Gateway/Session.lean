import TableGateway.Driver.Basic
import TableGateway.Log

/-!
# Sessions

A session is the state of a database together with the trace of what a gateway did: its log events
and the calls it made to drivers, in one order. An action that fails keeps the trace and the state
that it has reached.
-/

namespace TableGateway

/-- Something that a gateway did. -/
inductive TraceEntry (δ : Type) where
  | event (e : Event)
  | call (driver : δ) (method : Method) (statement : Statement)

structure Session (δ σ : Type) where
  database : σ
  trace : List (TraceEntry δ) := []

/-- An action of a gateway within a session. -/
abbrev Action (δ σ α : Type) := ExceptT Error (StateM (Session δ σ)) α

namespace Session

variable {δ σ : Type}

/-- The session with one more entry in its trace. -/
def note (session : Session δ σ) (entry : TraceEntry δ) : Session δ σ :=
  { session with trace := session.trace ++ [entry] }

/-- The log events of the session. -/
def events (session : Session δ σ) : List Event :=
  session.trace.filterMap fun
    | .event e => some e
    | .call .. => none

/-- The calls of the session. -/
def calls (session : Session δ σ) : List (δ × Method × Statement) :=
  session.trace.filterMap fun
    | .call driver method statement => some (driver, method, statement)
    | .event _ => none

end Session

namespace Action

variable {δ σ α : Type}

/-- Adds an entry to the trace. -/
def note (entry : TraceEntry δ) : Action δ σ Unit := modify fun session => session.note entry

/-- Lets the database answer. -/
def ask (reply : Reply σ α) : Action δ σ α := ExceptT.mk fun session =>
  let (answer, database) := reply session.database
  (answer, { session with database })

end Action

end TableGateway
