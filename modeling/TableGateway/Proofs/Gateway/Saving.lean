import TableGateway.Driver.Scripted
import TableGateway.Proofs.Gateway.Sending
import TableGateway.Proofs.KeyRules.History
import TableGateway.Proofs.Statement.Update

/-!
# Saving by the whole key

Saving decides by what the keys read back at the top of the record, and an update then selects by
the columns that the record is flattened to. The two readings agree: what reads back at the top has
a column of its own name. So an update that saving decides on selects by every key, and finding the
keys a second time changes nothing, because keys that a caller gives win.

Main statements: `of_eq_update_iff`, `update_of_update`, `save_allOrNothing`.
-/

namespace TableGateway

variable {δ σ α : Type}

/-! ## The decision -/

/-- Saving updates exactly if there are keys and each of them reads back a value that is set. -/
theorem Saving.of_eq_update_iff {record : Record} {keys chosen : List String} :
    Saving.of record keys = .update chosen
      ↔ chosen = keys ∧ keys ≠ []
        ∧ ∀ key ∈ keys, ∃ v, record.get? key = some v ∧ v.isUnset = false := by
  have hset : ∀ key, (record.get? key).all Value.isUnset = false
      ↔ ∃ v, record.get? key = some v ∧ v.isUnset = false := by
    intro key
    cases record.get? key <;> simp
  rw [Saving.of]
  split
  · next hnew =>
    -- No keys, or one that is unset, against what is said of the keys.
    refine ⟨fun h => by contradiction, fun ⟨_, hne, hall⟩ => ?_⟩
    rw [Bool.or_eq_true, List.isEmpty_iff, List.any_eq_true] at hnew
    obtain ⟨key, hkey, hunset⟩ := hnew.resolve_left hne
    rw [(hset key).mpr (hall key hkey)] at hunset
    contradiction
  · next hold =>
    rw [Bool.or_eq_true, not_or, List.isEmpty_iff, List.any_eq_true] at hold
    obtain ⟨hne, hall⟩ := hold
    constructor
    · intro h
      refine ⟨(Saving.update.inj h).symm, hne, fun key hkey => (hset key).mp ?_⟩
      rw [← Bool.not_eq_true]
      exact fun hunset => hall ⟨key, hkey, hunset⟩
    · rintro ⟨rfl, -, -⟩
      rfl

/-! ## The update that it comes to -/

/-- An update by keys that were chosen for it has the whole key: they are the ones that were found,
they are found again, and the columns that select are these keys, each of them once. -/
structure Gateway.WholeKey (g : Gateway δ α) (record : Record) (keys chosen : List String) :
    Prop where
  found : chosen = g.resolveKeys keys
  ne_nil : chosen ≠ []
  foundAgain : g.resolveKeys chosen = chosen
  nodup : (Entries.names (record.keyColumns chosen)).Nodup
  selects : ∀ key, key ∈ Entries.names (record.keyColumns chosen) ↔ key ∈ chosen

namespace Saving

/-- Each key of an update is a column of the record. -/
theorem mem_names_of_update {record : Record} {keys chosen : List String}
    (h : Saving.of record keys = .update chosen) {key : String} (hkey : key ∈ chosen) :
    key ∈ record.flatten.names := by
  obtain ⟨rfl, -, hall⟩ := of_eq_update_iff.mp h
  obtain ⟨v, hv, -⟩ := hall key hkey
  exact Record.mem_names_flatten_of_get? hv

/-- The update that saving decides on never lacks its key. -/
theorem update_of_update {record : Record} {keys chosen : List String} (table : String)
    (h : Saving.of record keys = .update chosen) :
    Statement.update table record chosen
      = if ∀ column ∈ record.flatten.names, column ∈ chosen then .error (.nothingToSet table)
        else .ok (Statement.updating table record chosen) := by
  obtain ⟨heq, hne, -⟩ := of_eq_update_iff.mp h
  obtain ⟨key, hkey⟩ := List.exists_mem_of_ne_nil chosen (heq ▸ hne)
  -- One key is enough: it is a column, so some column is a key.
  rw [Statement.update_eq, if_neg]
  exact fun hnone => hnone key (mem_names_of_update h hkey) hkey

end Saving

namespace Gateway

theorem wholeKey_of_update {g : Gateway δ α} {record : Record} {keys chosen : List String}
    (h : Saving.of record (g.resolveKeys keys) = .update chosen) :
    g.WholeKey record keys chosen := by
  obtain ⟨heq, hne, -⟩ := Saving.of_eq_update_iff.mp h
  rw [← heq] at hne
  refine ⟨heq, hne, KeyRules.resolve_of_ne_nil hne, Statement.nodup_names_keyColumns record chosen,
    fun key => ?_⟩
  rw [Statement.mem_names_keyColumns]
  exact ⟨fun hmem => hmem.2, fun hkey => ⟨Saving.mem_names_of_update h hkey, hkey⟩⟩

/-! ## The run -/

open TableGateway.Action

/-- An answer in which the number of rows is replaced by what saving came to. -/
def answering (action : Saving) : Except Error Nat × Session δ σ → Except Error Saving × Session δ σ
  | (outcome, session) => (outcome.map fun _ => action, session)

theorem runFrom_discard_pure (x : Action δ σ Nat) (action : Saving) (session : Session δ σ) :
    (discard x >>= fun _ => pure action).runFrom session
      = answering action (x.runFrom session) := by
  rw [runFrom_bind, runFrom_discard]
  rcases x.runFrom session with ⟨_ | count, after⟩ <;> rfl

/-- Such an answer fails as the answer did. -/
theorem answering_eq_error_iff {action : Saving} {answer : Except Error Nat × Session δ σ}
    {e : Error} : (answering action answer).1 = .error e ↔ answer.1 = .error e := by
  rcases answer with ⟨_ | count, after⟩ <;> simp [answering, Except.map]

variable [Driver δ σ]

theorem runFrom_insert (g : Gateway δ α) (record : Record) (session : Session δ σ) :
    (g.insert record).runFrom session
      = g.executed .insert (.insert g.table record) session :=
  g.runFrom_execute .insert (.insert g.table record) session

theorem runFrom_update (g : Gateway δ α) (record : Record) (keys : List String)
    (session : Session δ σ) :
    (g.update record keys).runFrom session
      = match Statement.update g.table record (g.resolveKeys keys) with
        | .ok statement => g.executed .update statement session
        | .error e => (.error e, session) :=
  g.runFrom_liftM_execute .update (Statement.update g.table record (g.resolveKeys keys)) session

/-- Saving executes the insertion, or the update by the keys that it has found. -/
theorem runFrom_save (g : Gateway δ α) (record : Record) (keys : List String)
    (session : Session δ σ) :
    (g.save record keys).runFrom session
      = match Saving.of record (g.resolveKeys keys) with
        | .insert => answering .insert (g.executed .insert (.insert g.table record) session)
        | .update chosen =>
          match Statement.update g.table record chosen with
          | .ok statement => answering (.update chosen) (g.executed .update statement session)
          | .error e => (.error e, session) := by
  rw [save]
  cases hsaving : Saving.of record (g.resolveKeys keys) with
  | insert =>
    refine (runFrom_discard_pure _ _ session).trans ?_
    rw [runFrom_insert]
  | update chosen =>
    refine (runFrom_discard_pure _ _ session).trans ?_
    -- The update finds its keys anew, from those that were found before.
    rw [runFrom_update, (wholeKey_of_update hsaving).foundAgain]
    show answering _ _ = match Statement.update g.table record chosen with
      | .ok statement => answering (.update chosen) (g.executed .update statement session)
      | .error e => (.error e, session)
    cases Statement.update g.table record chosen <;> rfl

/-- What saving has executed fails as the database answered the call that is in the trace. -/
theorem answering_executed_error_iff {g : Gateway δ α} {action : Saving} {operation : Operation}
    {statement : Statement} {session : Session δ σ} {e : Error} :
    (answering action (g.executed operation statement session)).1 = .error e
      ↔ ∃ operation' statement',
        (g.executed operation statement session).2.trace
            = session.trace ++ (g.sending operation' .execute statement').entries
          ∧ (Driver.execute g.driver statement' session.database).1 = .error e := by
  rw [answering_eq_error_iff]
  constructor
  · exact fun h => ⟨operation, statement, rfl, h⟩
  · rintro ⟨operation', statement', htrace, h⟩
    have hstatement : statement = statement' :=
      Sent.statement_eq_of_entries (List.append_cancel_left htrace)
    rwa [hstatement]

/-- Only the database can say that a key is missing. -/
theorem runFrom_save_noKey_iff {g : Gateway δ α} {record : Record} {keys : List String}
    {session : Session δ σ} {table : String} :
    ((g.save record keys).runFrom session).1 = .error (.noKey table)
      ↔ ∃ operation statement,
        ((g.save record keys).runFrom session).2.trace
            = session.trace ++ (g.sending operation .execute statement).entries
          ∧ (Driver.execute g.driver statement session.database).1 = .error (.noKey table) := by
  rw [runFrom_save]
  cases hsaving : Saving.of record (g.resolveKeys keys) with
  | insert => exact answering_executed_error_iff
  | update chosen =>
    have hupdate := Saving.update_of_update g.table hsaving
    by_cases hall : ∀ column ∈ record.flatten.names, column ∈ chosen
    · -- What the update lacks here is something to set, and nothing was sent.
      rw [if_pos hall] at hupdate
      simp [hupdate, Error.nothingToSet, Sent.entries]
    · rw [if_neg hall] at hupdate
      simp only [hupdate]
      exact answering_executed_error_iff

/-- Saving is all or nothing on the key, whatever the record, the rules and the given keys are. If
it decides on an update then it has the whole key, and the update can be written unless every
column is a key. One statement is executed, that insertion or that update, and its answer is
returned; nothing is reported or sent where the update cannot be written. So the error that a key
is missing only ever comes from the database, as the answer to the one call. -/
theorem save_allOrNothing (g : Gateway δ α) (record : Record) (keys : List String)
    (session : Session δ σ) :
    (∀ chosen, Saving.of record (g.resolveKeys keys) = .update chosen →
        g.WholeKey record keys chosen
          ∧ Statement.update g.table record chosen
            = if ∀ column ∈ record.flatten.names, column ∈ chosen then
                .error (.nothingToSet g.table)
              else .ok (Statement.updating g.table record chosen))
      ∧ (g.save record keys).runFrom session
        = (match Saving.of record (g.resolveKeys keys) with
          | .insert => answering .insert (g.executed .insert (.insert g.table record) session)
          | .update chosen =>
            match Statement.update g.table record chosen with
            | .ok statement => answering (.update chosen) (g.executed .update statement session)
            | .error e => (.error e, session))
      ∧ ∀ table, ((g.save record keys).runFrom session).1 = .error (.noKey table)
        ↔ ∃ operation statement,
          ((g.save record keys).runFrom session).2.trace
              = session.trace ++ (g.sending operation .execute statement).entries
            ∧ (Driver.execute g.driver statement session.database).1 = .error (.noKey table) :=
  ⟨fun _ h => ⟨wholeKey_of_update h, Saving.update_of_update g.table h⟩,
    g.runFrom_save record keys session, fun _ => runFrom_save_noKey_iff⟩

/-- The key is a pair, given with a repetition, and one of its names has a dot and meets the path
of a nested field. -/
theorem save_allOrNothing_dotted :
    let nested := Row.empty.setNested "user" (Row.empty.set "id" (.int 9))
    let record := Record.row
      (((nested.set "user.id" (.int 3)).set "site" (.text "de")).set "n" .null)
    let g : Gateway ScriptedDriver Row := toTable ⟨"main", .plain⟩ "orders"
    let keys := ["user.id", "site", "user.id"]
    Saving.of record (g.resolveKeys keys) = .update keys
      ∧ g.WholeKey record keys keys
      ∧ (Statement.update g.table record keys).map Statement.sql
        = .ok "UPDATE `orders` SET `n` = ? WHERE `user.id` = ? AND `site` = ?" := by
  intro nested record g keys
  have h : Saving.of record (g.resolveKeys keys) = .update keys := by decide +kernel
  obtain ⟨hwhole, hupdate⟩ := (save_allOrNothing g record keys ⟨{}, []⟩).1 keys h
  refine ⟨h, hwhole, ?_⟩
  rw [hupdate, if_neg (by decide +kernel)]
  exact congrArg Except.ok (by decide +kernel)

end Gateway

end TableGateway
