import TableGateway.Driver.Scripted
import TableGateway.Proofs.Gateway.Assembly
import TableGateway.Proofs.Log.Excerpt

/-!
# Runs and what they send

A run is a sequence of steps: changes of what the gateway works with, and commands. What a step
sends is what was assembled for it from the gateway as it is then, so the whole list of what a run
sends can be written down beforehand, up to the answers of the database. The trace of the run is
that list, each statement with its report and its call, whatever the database answers.

Main statements: `accounted_step`, `accounted_run`, `run_accounts_for_calls`.
-/

namespace TableGateway

variable {δ σ : Type}

/-! ## Accounting for a session -/

/-- What the trace of `after` has more than that of `before` are the reports and calls of `sent`:
one report and one call for each, in order, the report first. -/
structure Accounted (before after : Session δ σ) (sent : List (Sent δ)) : Prop where
  trace : after.trace = before.trace ++ sent.flatMap Sent.entries
  events : after.events = before.events ++ sent.map Sent.event
  calls : after.calls = before.calls ++ sent.map Sent.call

theorem Accounted.of_trace {before after : Session δ σ} {sent : List (Sent δ)}
    (h : after.trace = before.trace ++ sent.flatMap Sent.entries) :
    Accounted before after sent where
  trace := h
  events := by
    rw [Session.events, h, List.filterMap_append, List.filterMap_flatMap]
    simp [Session.events, Sent.entries, List.map_eq_flatMap]
  calls := by
    rw [Session.calls, h, List.filterMap_append, List.filterMap_flatMap]
    simp [Session.calls, Sent.entries, Sent.call, List.map_eq_flatMap]

theorem Accounted.refl (session : Session δ σ) : Accounted session session [] :=
  .of_trace (List.append_nil session.trace).symm

theorem Accounted.trans {before between after : Session δ σ} {sent more : List (Sent δ)}
    (h : Accounted before between sent) (hmore : Accounted between after more) :
    Accounted before after (sent ++ more) := by
  apply Accounted.of_trace
  rw [hmore.trace, h.trace, List.flatMap_append, List.append_assoc]

/-! ## Runs -/

/-- A step of a run. -/
inductive Move (δ : Type) : Type 1 where
  | configure (setting : Gateway.Setting δ)
  | building {β : Type} (build : Columns → β)
  | perform (command : Command)

/-- A gateway within a session, whatever it builds from rows. -/
structure Moment (δ σ : Type) : Type 1 where
  {Result : Type}
  gateway : Gateway δ Result
  session : Session δ σ

namespace Moment

section Assembling

/-- What a step sends, if it sends something. -/
def sends (here : Moment δ σ) : Move δ → Option (Sent δ)
  | .configure _ | .building _ => none
  | .perform command =>
    match here.gateway.assemble command with
    | .ok sent => sent
    | .error _ => none

/-- A step that needs no statement, or a command that cannot be put together. -/
def Silent (here : Moment δ σ) : Move δ → Prop
  | .configure _ | .building _ => True
  | .perform command =>
    (∃ sequence, command = .lastInsertId sequence)
      ∨ ∃ e, here.gateway.assemble command = .error e
        ∧ Gateway.AssemblyFailure here.gateway.table e

theorem sends_eq_none_iff {here : Moment δ σ} {move : Move δ} :
    here.sends move = none ↔ here.Silent move := by
  cases move with
  | configure | building => exact ⟨fun _ => trivial, fun _ => rfl⟩
  | perform command =>
    rw [sends, Silent, ← Gateway.assemble_eq_none_iff (g := here.gateway)]
    cases hassemble : here.gateway.assemble command with
    | error e =>
      exact ⟨fun _ => .inr ⟨e, rfl, Gateway.failure_of_assemble hassemble⟩, fun _ => rfl⟩
    | ok sent => simp

/-- What is sent goes through the driver and for the table of that moment. -/
theorem gateway_of_sends {here : Moment δ σ} {move : Move δ} {sent : Sent δ}
    (h : here.sends move = some sent) :
    sent.driver = here.gateway.driver ∧ sent.table = here.gateway.table := by
  cases move with
  | configure | building => contradiction
  | perform command =>
    rw [sends] at h
    split at h
    · next hassemble => exact Gateway.gateway_of_assemble (h ▸ hassemble)
    · contradiction

end Assembling

variable [Driver δ σ]

/-- One step. -/
def step (here : Moment δ σ) : Move δ → Moment δ σ
  | .configure setting => ⟨here.gateway.configure setting, here.session⟩
  | .building build => ⟨here.gateway.building build, here.session⟩
  | .perform command =>
    ⟨here.gateway, ((here.gateway.perform command).runFrom here.session).2⟩

def run (here : Moment δ σ) (moves : List (Move δ)) : Moment δ σ := moves.foldl step here

/-- What the steps of a run send, one after the other. -/
def sent (here : Moment δ σ) : List (Move δ) → List (Sent δ)
  | [] => []
  | move :: rest => (here.sends move).toList ++ (here.step move).sent rest

theorem accounted_step (here : Moment δ σ) (move : Move δ) :
    Accounted here.session (here.step move).session (here.sends move).toList := by
  cases move with
  | configure | building => exact .refl here.session
  | perform command =>
    rw [step, sends]
    cases hassemble : here.gateway.assemble command with
    | ok sent => exact .of_trace (Gateway.trace_perform hassemble)
    | error e =>
      rw [Gateway.runFrom_perform_of_error hassemble]
      exact .refl here.session

theorem accounted_run (here : Moment δ σ) (moves : List (Move δ)) :
    Accounted here.session (here.run moves).session (here.sent moves) := by
  induction moves generalizing here with
  | nil => exact .refl here.session
  | cons move rest ih => exact (here.accounted_step move).trans (ih (here.step move))

theorem sent_append (here : Moment δ σ) (moves more : List (Move δ)) :
    here.sent (moves ++ more) = here.sent moves ++ (here.run moves).sent more := by
  induction moves generalizing here with
  | nil => rfl
  | cons move rest ih =>
    rw [List.cons_append, sent, ih, sent, List.append_assoc]
    rfl

/-- The calls of a session stay the same in a step exactly if the step is silent. -/
theorem calls_step_eq_iff {here : Moment δ σ} {move : Move δ} :
    (here.step move).session.calls = here.session.calls ↔ here.Silent move := by
  rw [(here.accounted_step move).calls, List.append_right_eq_self, List.map_eq_nil_iff,
    Option.toList_eq_nil_iff, sends_eq_none_iff]

theorem events_step_eq_iff {here : Moment δ σ} {move : Move δ} :
    (here.step move).session.events = here.session.events ↔ here.Silent move := by
  rw [(here.accounted_step move).events, List.append_right_eq_self, List.map_eq_nil_iff,
    Option.toList_eq_nil_iff, sends_eq_none_iff]

/-- A report carries the table, the number of parameters and the longest beginning of the text that
fits 200 bytes. -/
theorem event_eq (sent : Sent δ) : ∃ cut,
    sent.event = .statement sent.operation sent.table sent.statement.params.length cut
      ∧ LongestFitting 200 sent.statement.sql cut :=
  ⟨_, rfl, excerpt_longestFitting loggedBytes sent.statement.sql⟩

/-- Reports and calls agree over whole runs, for any gateway to begin with, any database and any
steps. What the run adds to the session are the reports and calls of what its steps send, one of
each in order. So it goes on with the next step, whatever that is: it sends at most one statement,
from the driver and for the table of that moment, and it leaves calls and reports alone exactly if
it is a change of the gateway, asks for a generated id, or cannot be put together; a command that
cannot be put together fails so and leaves the session as it is. -/
theorem run_accounts_for_calls (start : Moment δ σ) (moves : List (Move δ)) (next : Move δ) :
    let here := start.run moves
    Accounted start.session here.session (start.sent moves)
      ∧ (∀ sent ∈ start.sent moves, ∃ cut,
        sent.event = .statement sent.operation sent.table sent.statement.params.length cut
          ∧ LongestFitting 200 sent.statement.sql cut)
      ∧ Accounted here.session (here.step next).session (here.sends next).toList
      ∧ start.sent (moves ++ [next]) = start.sent moves ++ (here.sends next).toList
      ∧ (∀ sent ∈ here.sends next,
        sent.driver = here.gateway.driver ∧ sent.table = here.gateway.table)
      ∧ ((here.step next).session.calls = here.session.calls ↔ here.Silent next)
      ∧ ((here.step next).session.events = here.session.events ↔ here.Silent next)
      ∧ ∀ command e, next = .perform command → here.gateway.assemble command = .error e →
        (here.gateway.perform command).runFrom here.session = (.error e, here.session) := by
  intro here
  refine ⟨start.accounted_run moves, fun sent _ => event_eq sent, here.accounted_step next, ?_,
    fun sent h => gateway_of_sends h, calls_step_eq_iff, events_step_eq_iff,
    fun command e _ h => Gateway.runFrom_perform_of_error h⟩
  rw [sent_append, sent, sent, List.append_nil]

/-- A database that refuses everything. Both calls are reported and made all the same, each for the
table of its moment; the same statement would now go to the other table, and an update without a
key would go nowhere. -/
theorem run_accounts_for_calls_refused :
    let start : Moment ScriptedDriver Script :=
      ⟨Gateway.toTable ⟨"main", .plain⟩ "users", ⟨{ failure := some "gone" }, []⟩⟩
    let raw : Statement := ⟨"SELECT ?", [.null]⟩
    let moves : List (Move ScriptedDriver) :=
      [.perform (.exec raw), .configure (.table "orders"), .perform (.deleteById (.int 7) none)]
    let here := start.run moves
    here.session.events
        = [.statement .exec "users" 1 "SELECT ?",
          .statement .deleteById "orders" 1 "DELETE FROM `orders` WHERE `orders_id` = ?"]
      ∧ (⟨⟨"main", .plain⟩, "users", .exec, .execute, raw⟩ ∈ start.sent moves
        ∧ ∃ cut, LongestFitting 200 raw.sql cut)
      ∧ (⟨⟨"main", .plain⟩, "orders", .exec, .execute, raw⟩ ∈ here.sends (.perform (.exec raw))
        ∧ here.gateway.table = "orders")
      ∧ here.gateway.assemble (.update (.row .empty) []) = .error (.noKey "orders")
      ∧ (here.gateway.perform (.update (.row .empty) [])).runFrom here.session
        = (.error (.noKey "orders"), here.session) := by
  intro start raw moves here
  obtain ⟨haccounted, hevents, -, -, hplace, -⟩ :=
    run_accounts_for_calls start moves (.perform (.exec raw))
  obtain ⟨-, -, -, -, -, -, -, hfails⟩ :=
    run_accounts_for_calls start moves (.perform (.update (.row .empty) []))
  have hfirst : ⟨⟨"main", .plain⟩, "users", .exec, .execute, raw⟩ ∈ start.sent moves :=
    List.mem_cons_self
  have hagain : ⟨⟨"main", .plain⟩, "orders", .exec, .execute, raw⟩
      ∈ here.sends (.perform (.exec raw)) := rfl
  have hassemble : here.gateway.assemble (.update (.row .empty) []) = .error (.noKey "orders") :=
    rfl
  obtain ⟨cut, -, hcut⟩ := hevents _ hfirst
  refine ⟨?_, ⟨hfirst, cut, hcut⟩, ⟨hagain, (hplace _ hagain).2.symm⟩, hassemble,
    hfails _ _ rfl hassemble⟩
  rw [haccounted.events]
  decide +kernel

end Moment

end TableGateway
