import TableGateway.Gateway.Command
import TableGateway.Proofs.Gateway.Saving

/-!
# What a command sends

Before a command sends anything its statement is assembled, from the command and the gateway alone:
the database has no part in it. Where that fails the command fails so and nothing has happened;
otherwise the command sends that one statement, or none if it only asks for a generated id, and
whatever the database answers changes nothing about that.

Main statements: `sends_perform`, `runFrom_perform_of_error`, `assemble_eq_none_iff`,
`failure_of_assemble`.
-/

namespace TableGateway

variable {δ σ α β γ : Type}

/-! ## Actions that send -/

namespace Action

/-- Run from `session`, the action sends what was assembled, at most one statement; if nothing
could be assembled it fails so and leaves the session as it is. -/
def Sends (x : Action δ σ α) (session : Session δ σ) :
    Except Error (Option (Sent δ)) → Prop
  | .ok sent =>
    (x.runFrom session).2.trace = session.trace ++ sent.toList.flatMap Sent.entries
  | .error e => x.runFrom session = (.error e, session)

variable {x : Action δ σ α} {session : Session δ σ} {assembled : Except Error (Option (Sent δ))}

/-- Going on without touching the session sends nothing more. -/
theorem Sends.bind {f : α → Action δ σ β} (h : x.Sends session assembled)
    (hf : ∀ a after, ((f a).runFrom after).2 = after) : (x >>= f).Sends session assembled := by
  have hsession : ∀ run : Except Error α × Session δ σ, (follow f run).2 = run.2 := by
    rintro ⟨_ | a, after⟩
    · rfl
    · exact hf a after
  cases assembled with
  | ok sent =>
    rw [Sends, runFrom_bind, hsession]
    exact h
  | error e =>
    have hx : x.runFrom session = (.error e, session) := h
    rw [Sends, runFrom_bind, hx]
    rfl

theorem Sends.map (f : α → β) (h : x.Sends session assembled) :
    (f <$> x).Sends session assembled := by
  cases assembled with
  | ok sent =>
    rw [Sends, runFrom_map]
    exact h
  | error e =>
    have hx : x.runFrom session = (.error e, session) := h
    rw [Sends, runFrom_map, hx]
    rfl

/-- A statement that has to be put together first. -/
theorem sends_liftM_bind (first : Except Error α) {f : α → Action δ σ β} {sent : α → Sent δ}
    (hf : ∀ a, (f a).Sends session (.ok (some (sent a)))) :
    ((liftM first : Action δ σ α) >>= f).Sends session (first.map fun a => some (sent a)) := by
  cases first with
  | ok a => exact hf a
  | error e => rfl

/-- Asking the database is no call of a statement. -/
theorem sends_ask (reply : Reply σ α) :
    (ask reply : Action δ σ α).Sends session (.ok none) := by
  rw [Sends, runFrom_ask]
  exact (List.append_nil session.trace).symm

end Action

/-! ## Assembling -/

namespace Gateway

open TableGateway.Action

/-- What a command is about to send, or why it cannot be put together. -/
def assemble (g : Gateway δ α) : Command → Except Error (Option (Sent δ))
  | .insert record => .ok (some (g.sending .insert .execute (.insert g.table record)))
  | .update record keys =>
    (Statement.update g.table record (g.resolveKeys keys)).map fun statement =>
      some (g.sending .update .execute statement)
  | .delete record keys =>
    (Statement.delete g.table record (g.resolveKeys keys)).map fun statement =>
      some (g.sending .delete .execute statement)
  | .deleteById id key =>
    (g.keyForId key).map fun key =>
      some (g.sending .deleteById .execute (.deleteById g.table key id))
  | .save record keys =>
    match Saving.of record (g.resolveKeys keys) with
    | .insert => .ok (some (g.sending .insert .execute (.insert g.table record)))
    | .update chosen =>
      (Statement.update g.table record chosen).map fun statement =>
        some (g.sending .update .execute statement)
  | .exec statement => .ok (some (g.sending .exec .execute statement))
  | .query select => .ok (some (g.sending .query .query { sql := select.toSql }))
  | .findOne select => .ok (some (g.sending .findOne .query { sql := select.toSql }))
  | .findAll select => .ok (some (g.sending .findAll .query { sql := select.toSql }))
  | .findById id key =>
    (g.keyForId key).map fun key =>
      some (g.sending .findById .query (.findById g.table key id))
  | .count select field =>
    .ok (some (g.sending .count .query { sql := (select.counted field).toSql }))
  | .lastInsertId _ => .ok none

/-! ## Failing -/

/-- What assembling can fail with, for a gateway to `table`. -/
inductive AssemblyFailure (table : String) : Error → Prop where
  | noKey : AssemblyFailure table (.noKey table)
  | splitKey (count : Nat) : AssemblyFailure table (.splitKey table count)
  | validation (message : String) : AssemblyFailure table (.validation message)

theorem failure_of_update {table : String} {record : Record} {keys : List String} {e : Error}
    (h : Statement.update table record keys = .error e) : AssemblyFailure table e := by
  rw [Statement.update_eq] at h
  split at h
  · cases h
    exact .noKey
  · split at h
    · cases h
      exact .validation _
    · contradiction

theorem failure_of_delete {table : String} {record : Record} {keys : List String} {e : Error}
    (h : Statement.delete table record keys = .error e) : AssemblyFailure table e := by
  rw [Statement.delete] at h
  split at h
  · cases h
    exact .noKey
  · contradiction

theorem failure_of_onlyKey {table : String} {keys : List String} {e : Error}
    (h : Statement.onlyKey table keys = .error e) : AssemblyFailure table e := by
  rcases keys with _ | ⟨key, _ | ⟨other, rest⟩⟩
  · cases h
    exact .noKey
  · contradiction
  · cases h
    exact .splitKey _

theorem failure_of_keyForId {g : Gateway δ α} {key : Option String} {e : Error}
    (h : g.keyForId key = .error e) : AssemblyFailure g.table e := by
  cases key with
  | none => exact failure_of_onlyKey h
  | some key =>
    rw [keyForId] at h
    split at h
    · exact failure_of_onlyKey h
    · contradiction

theorem error_of_map {x : Except Error β} {f : β → γ} {e : Error} (h : x.map f = .error e) :
    x = .error e := by
  cases x with
  | ok a => contradiction
  | error e' => exact congrArg Except.error (Except.error.inj h)

/-- A command that cannot be put together lacks its key, has too many, or has nothing to set. -/
theorem failure_of_assemble {g : Gateway δ α} {command : Command} {e : Error}
    (h : g.assemble command = .error e) : AssemblyFailure g.table e := by
  cases command with
  | update record keys => exact failure_of_update (error_of_map h)
  | delete record keys => exact failure_of_delete (error_of_map h)
  | deleteById id key => exact failure_of_keyForId (error_of_map h)
  | findById id key => exact failure_of_keyForId (error_of_map h)
  | save record keys =>
    rw [assemble] at h
    split at h
    · contradiction
    · exact failure_of_update (error_of_map h)
  | _ => contradiction

theorem map_ne_none {x : Except Error β} {f : β → γ} : x.map (fun a => some (f a)) ≠ .ok none := by
  cases x <;> simp [Except.map]

/-- Only asking for a generated id needs no statement. -/
theorem assemble_eq_none_iff {g : Gateway δ α} {command : Command} :
    g.assemble command = .ok none ↔ ∃ sequence, command = .lastInsertId sequence := by
  constructor
  · intro h
    cases command with
    | lastInsertId sequence => exact ⟨sequence, rfl⟩
    | update | delete | deleteById | findById => exact absurd h map_ne_none
    | save record keys =>
      rw [assemble] at h
      split at h
      · cases h
      · exact absurd h map_ne_none
    | _ => cases h
  · rintro ⟨sequence, rfl⟩
    rfl

/-- What is assembled is for the driver and the table of the gateway. -/
theorem gateway_of_assemble {g : Gateway δ α} {command : Command} {sent : Sent δ}
    (h : g.assemble command = .ok (some sent)) :
    sent.driver = g.driver ∧ sent.table = g.table := by
  have hmap : ∀ {β : Type} {x : Except Error β} {operation : Operation} {method : Method}
      {statement : β → Statement},
      x.map (fun b => some (g.sending operation method (statement b))) = .ok (some sent) →
        sent.driver = g.driver ∧ sent.table = g.table := by
    intro β x operation method statement hx
    cases x with
    | error e => contradiction
    | ok b =>
      cases hx
      exact ⟨rfl, rfl⟩
  -- These put one thing together first; the rest send what is given.
  cases command with
  | update | delete | deleteById | findById => exact hmap h
  | save record keys =>
    rw [assemble] at h
    split at h
    · cases h
      exact ⟨rfl, rfl⟩
    · exact hmap h
  | lastInsertId => cases h
  | _ =>
    cases h
    exact ⟨rfl, rfl⟩

/-! ## Sending -/

section Sending

variable [Driver δ σ] {session : Session δ σ}

theorem sends_execute (g : Gateway δ α) (operation : Operation) (statement : Statement) :
    (g.execute operation statement).Sends session
      (.ok (some (g.sending operation .execute statement))) := by
  rw [Sends, runFrom_execute]
  simp [executed]

theorem sends_fetch (g : Gateway δ α) (operation : Operation) (statement : Statement) :
    (g.fetch operation statement).Sends session
      (.ok (some (g.sending operation .query statement))) := by
  rw [Sends, runFrom_fetch]
  simp [fetched]

theorem sends_update (g : Gateway δ α) (record : Record) (keys : List String) :
    (g.update record keys).Sends session (g.assemble (.update record keys)) :=
  sends_liftM_bind _ fun statement => g.sends_execute .update statement

theorem sends_save (g : Gateway δ α) (record : Record) (keys : List String) :
    (g.save record keys).Sends session (g.assemble (.save record keys)) := by
  rw [save, assemble]
  cases hsaving : Saving.of record (g.resolveKeys keys) with
  | insert => exact ((g.sends_execute .insert _).map _).bind fun _ _ => rfl
  | update chosen =>
    have hupdate : (g.update record chosen).Sends session _ := g.sends_update record chosen
    rw [assemble, (wholeKey_of_update hsaving).foundAgain] at hupdate
    exact (hupdate.map _).bind fun _ _ => rfl

/-- Each command sends what was assembled for it. -/
theorem sends_perform (g : Gateway δ α) (command : Command) :
    (g.perform command).Sends session (g.assemble command) := by
  cases command with
  | insert record => exact (g.sends_execute .insert _).map _
  | update record keys => exact (g.sends_update record keys).map _
  | delete record keys =>
    exact (sends_liftM_bind _ fun statement => g.sends_execute .delete statement).map _
  | deleteById id key =>
    exact (sends_liftM_bind _ fun key => g.sends_execute .deleteById _).map _
  | save record keys => exact (g.sends_save record keys).map _
  | exec statement => exact (g.sends_execute .exec statement).map _
  | query select => exact (g.sends_fetch .query _).map _
  | findOne select => exact ((g.sends_fetch .findOne _).bind fun _ _ => rfl).map _
  | findAll select => exact ((g.sends_fetch .findAll _).bind fun _ _ => rfl).map _
  | findById id key =>
    exact (sends_liftM_bind _ fun key =>
      (g.sends_fetch .findById _).bind fun _ _ => rfl).map _
  | count select field => exact ((g.sends_fetch .count _).bind fun _ _ => rfl).map _
  | lastInsertId sequence => exact (sends_ask _).map _

theorem trace_perform {g : Gateway δ α} {command : Command} {sent : Option (Sent δ)}
    (h : g.assemble command = .ok sent) :
    ((g.perform command).runFrom session).2.trace
      = session.trace ++ sent.toList.flatMap Sent.entries := by
  have hsends : (g.perform command).Sends session _ := g.sends_perform command
  rwa [h] at hsends

/-- A command that cannot be put together fails so, and nothing has happened. -/
theorem runFrom_perform_of_error {g : Gateway δ α} {command : Command} {e : Error}
    (h : g.assemble command = .error e) :
    (g.perform command).runFrom session = (.error e, session) := by
  have hsends : (g.perform command).Sends session _ := g.sends_perform command
  rwa [h] at hsends

end Sending

end Gateway

end TableGateway
