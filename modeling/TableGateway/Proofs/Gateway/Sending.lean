import TableGateway.Gateway.Basic

/-!
# What running an action does

An action is run from a session, and gives an outcome and the session that it has reached. The
equations here say what each way of putting actions together does, so that no later proof has to
look into the monad.

Sending a statement adds two entries to the trace, the report and then the call, and both stay
whatever the driver answers.

Main statements: `runFrom_bind`, `runFrom_execute`, `runFrom_fetch`.
-/

namespace TableGateway

variable {δ σ α β : Type}

namespace Action

/-- The outcome of an action that is run from a session, and the session that it reaches. -/
def runFrom (action : Action δ σ α) (session : Session δ σ) : Except Error α × Session δ σ :=
  (ExceptT.run action).run session

/-- What comes after an outcome: a result is handed on, an error ends the run. -/
def follow (f : α → Action δ σ β) : Except Error α × Session δ σ → Except Error β × Session δ σ
  | (.ok a, session) => (f a).runFrom session
  | (.error e, session) => (.error e, session)

theorem runFrom_bind (x : Action δ σ α) (f : α → Action δ σ β) (session : Session δ σ) :
    (x >>= f).runFrom session = follow f (x.runFrom session) := by
  have hbind : (x >>= f).runFrom session
      = ExceptT.bindCont f (x.runFrom session).1 (x.runFrom session).2 := rfl
  rw [hbind]
  rcases x.runFrom session with ⟨_ | a, after⟩ <;> rfl

theorem runFrom_map (f : α → β) (x : Action δ σ α) (session : Session δ σ) :
    (f <$> x).runFrom session = ((x.runFrom session).1.map f, (x.runFrom session).2) := by
  unfold runFrom
  rw [ExceptT.run_map, StateT.run_map]
  rfl

theorem runFrom_discard (x : Action δ σ α) (session : Session δ σ) :
    (discard x).runFrom session
      = ((x.runFrom session).1.map fun _ => (), (x.runFrom session).2) :=
  runFrom_map (fun _ => ()) x session

/-- A result or an error that was there before the run. -/
theorem runFrom_liftM (x : Except Error α) (session : Session δ σ) :
    (liftM x : Action δ σ α).runFrom session = (x, session) := rfl

theorem runFrom_note (entry : TraceEntry δ) (session : Session δ σ) :
    (note entry).runFrom session = (.ok (), session.note entry) := rfl

theorem runFrom_ask (reply : Reply σ α) (session : Session δ σ) :
    (ask reply : Action δ σ α).runFrom session
      = ((reply session.database).1, ⟨(reply session.database).2, session.trace⟩) := rfl

end Action

/-! ## What is sent -/

/-- A statement on its way: through which driver, for which table, what for and how. -/
structure Sent (δ : Type) where
  driver : δ
  table : String
  operation : Operation
  method : Method
  statement : Statement

namespace Sent

/-- The report. -/
def event (sent : Sent δ) : Event :=
  .statement sent.operation sent.table sent.statement.params.length
    (excerpt loggedBytes sent.statement.sql)

/-- The call. -/
def call (sent : Sent δ) : δ × Method × Statement := (sent.driver, sent.method, sent.statement)

/-- What the trace shows of it: the report, and the call right behind. -/
def entries (sent : Sent δ) : List (TraceEntry δ) :=
  [.event sent.event, .call sent.driver sent.method sent.statement]

/-- The call in the trace tells what statement it was. -/
theorem statement_eq_of_entries {sent other : Sent δ} (h : sent.entries = other.entries) :
    sent.statement = other.statement := by
  simp only [entries, List.cons.injEq, TraceEntry.call.injEq] at h
  exact h.2.1.2.2

end Sent

namespace Gateway

open TableGateway.Action

/-- What a gateway sends. -/
def sending (g : Gateway δ α) (operation : Operation) (method : Method) (statement : Statement) :
    Sent δ :=
  ⟨g.driver, g.table, operation, method, statement⟩

variable [Driver δ σ]

/-- What executing a statement leaves: the answer of the database, and a session with the state
and the longer trace that it has then. -/
def executed (g : Gateway δ α) (operation : Operation) (statement : Statement) :
    Reply (Session δ σ) Nat := fun session =>
  ((Driver.execute g.driver statement session.database).1,
    ⟨(Driver.execute g.driver statement session.database).2,
      session.trace ++ (g.sending operation .execute statement).entries⟩)

/-- What fetching the rows of a query leaves. -/
def fetched (g : Gateway δ α) (operation : Operation) (statement : Statement) :
    Reply (Session δ σ) (List Columns) := fun session =>
  ((Driver.query g.driver statement session.database).1,
    ⟨(Driver.query g.driver statement session.database).2,
      session.trace ++ (g.sending operation .query statement).entries⟩)

theorem runFrom_execute (g : Gateway δ α) (operation : Operation) (statement : Statement)
    (session : Session δ σ) :
    (g.execute operation statement).runFrom session = g.executed operation statement session := by
  rw [execute, runFrom_bind, report, runFrom_note, follow, runFrom_bind, runFrom_note, follow,
    runFrom_ask]
  simp [executed, Session.note, sending, Sent.entries, Sent.event]

/-- A statement that has to be put together first is executed, or nothing is. -/
theorem runFrom_liftM_execute (g : Gateway δ α) (operation : Operation)
    (assembled : Except Error Statement) (session : Session δ σ) :
    ((liftM assembled : Action δ σ Statement) >>= g.execute operation).runFrom session
      = match assembled with
        | .ok statement => g.executed operation statement session
        | .error e => (.error e, session) := by
  rw [runFrom_bind, runFrom_liftM]
  cases assembled with
  | ok statement => exact g.runFrom_execute operation statement session
  | error e => rfl

theorem runFrom_fetch (g : Gateway δ α) (operation : Operation) (statement : Statement)
    (session : Session δ σ) :
    (g.fetch operation statement).runFrom session = g.fetched operation statement session := by
  rw [fetch, runFrom_bind, report, runFrom_note, follow, runFrom_bind, runFrom_note, follow,
    runFrom_ask]
  simp [fetched, Session.note, sending, Sent.entries, Sent.event]

end Gateway

end TableGateway
