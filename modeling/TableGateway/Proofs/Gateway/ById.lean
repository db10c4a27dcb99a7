import TableGateway.Driver.Scripted
import TableGateway.Proofs.Gateway.Saving

/-!
# Access by a single value

Deleting and finding by a single value choose the key in one way: a key that is named and not empty,
else the only key of the table. Without such a key both are refused alike, and nothing has happened;
otherwise both have the same conditions and the same value. Where the table has one key, deleting a
record is deleting by the value that the record has for it.

Main statements: `usesKey_or_lacksKey`, `run_eq_error_iff`, `byId_agrees`.
-/

namespace TableGateway

/-- A record is deleted by a single key as its value is. -/
theorem Statement.delete_singleton (table : String) (record : Record) (key : String) :
    delete table record [key] = .ok (deleteById table key ((record.get? key).getD .null)) := rfl

namespace Gateway

variable {δ σ α : Type} {g : Gateway δ α} {given : Option String}

/-! ## The key -/

/-- No key is named: none is given, or an empty one. -/
def Unnamed (given : Option String) : Prop := ∀ key ∈ given, key = ""

/-- The key by which a single value selects. -/
inductive UsesKey (g : Gateway δ α) (given : Option String) : String → Prop where
  | named {key : String} (hgiven : given = some key) (hne : key ≠ "") : UsesKey g given key
  | only {key : String} (hunnamed : Unnamed given) (hfound : g.resolveKeys [] = [key]) :
    UsesKey g given key

/-- Why a single value cannot select. -/
inductive LacksKey (g : Gateway δ α) (given : Option String) : Error → Prop where
  | noKey (hunnamed : Unnamed given) (hfound : g.resolveKeys [] = []) :
    LacksKey g given (.noKey g.table)
  | splitKey (hunnamed : Unnamed given) (hfound : 2 ≤ (g.resolveKeys []).length) :
    LacksKey g given (.splitKey g.table (g.resolveKeys []).length)

theorem keyForId_of_named {key : String} (hne : key ≠ "") : g.keyForId (some key) = .ok key := by
  rw [keyForId, if_neg]
  rwa [String.isEmpty_iff]

theorem keyForId_of_unnamed (h : Unnamed given) :
    g.keyForId given = Statement.onlyKey g.table (g.resolveKeys []) := by
  cases given with
  | none => rfl
  | some key =>
    obtain rfl := h key rfl
    rfl

theorem keyForId_of_usesKey {key : String} (h : g.UsesKey given key) :
    g.keyForId given = .ok key := by
  cases h with
  | named hgiven hne => rw [hgiven, keyForId_of_named hne]
  | only hunnamed hfound => rw [keyForId_of_unnamed hunnamed, hfound, Statement.onlyKey]

theorem keyForId_of_lacksKey {e : Error} (h : g.LacksKey given e) :
    g.keyForId given = .error e := by
  cases h with
  | noKey hunnamed hfound => rw [keyForId_of_unnamed hunnamed, hfound, Statement.onlyKey]
  | splitKey hunnamed hfound =>
    rw [keyForId_of_unnamed hunnamed]
    match g.resolveKeys [], hfound with
    | _ :: _ :: _, _ => rfl

/-- There is a key, or a reason why there is none. -/
theorem usesKey_or_lacksKey (g : Gateway δ α) (given : Option String) :
    (∃ key, g.UsesKey given key) ∨ ∃ e, g.LacksKey given e := by
  by_cases hunnamed : Unnamed given
  · match hfound : g.resolveKeys [] with
    | [] => exact .inr ⟨_, .noKey hunnamed hfound⟩
    | [key] => exact .inl ⟨key, .only hunnamed hfound⟩
    | _ :: _ :: _ => exact .inr ⟨_, .splitKey hunnamed (by simp [hfound])⟩
  · cases given with
    | none => exact absurd (fun key hkey => nomatch hkey) hunnamed
    | some key =>
      refine .inl ⟨key, .named rfl fun hempty => hunnamed fun other hother => ?_⟩
      exact (Option.some.inj hother).symm.trans hempty

/-! ## The runs -/

/-- A run that takes its key by this choice, and sends something if it has one, is refused exactly
where there is none. -/
theorem run_eq_error_iff {β : Type} {session : Session δ σ}
    {run : Except Error β × Session δ σ} {e : Error}
    (hlacks : ∀ e, g.LacksKey given e → run = (.error e, session))
    (huses : ∀ key, g.UsesKey given key →
      ∃ sent : Sent δ, run.2.trace = session.trace ++ sent.entries) :
    run = (.error e, session) ↔ g.LacksKey given e := by
  refine ⟨fun hrun => ?_, hlacks e⟩
  rcases g.usesKey_or_lacksKey given with ⟨key, hkey⟩ | ⟨e', he'⟩
  · -- What was sent is in the trace, so the session is another.
    obtain ⟨sent, htrace⟩ := huses key hkey
    rw [hrun] at htrace
    simp [Sent.entries] at htrace
  · obtain rfl := Except.error.inj (Prod.mk.inj ((hlacks e' he').symm.trans hrun)).1
    exact he'

open TableGateway.Action

variable [Driver δ σ] {session : Session δ σ} {id : Value}

/-- An answer in which the first row stands for all of them. -/
def answeringFirst (g : Gateway δ α) :
    Except Error (List Columns) × Session δ σ → Except Error (Option α) × Session δ σ
  | (outcome, after) => (outcome.map fun rows => rows.head?.map g.build, after)

theorem runFrom_deleteById_of_usesKey {key : String} (h : g.UsesKey given key) :
    (g.deleteById id given).runFrom session
      = g.executed .deleteById (.deleteById g.table key id) session := by
  rw [deleteById, keyForId_of_usesKey h]
  exact g.runFrom_execute _ _ session

theorem runFrom_deleteById_of_lacksKey {e : Error} (h : g.LacksKey given e) :
    (g.deleteById id given).runFrom session = (.error e, session) := by
  rw [deleteById, keyForId_of_lacksKey h]
  rfl

theorem runFrom_findById_of_usesKey {key : String} (h : g.UsesKey given key) :
    (g.findById id given).runFrom session
      = g.answeringFirst (g.fetched .findById (.findById g.table key id) session) := by
  have hfetch : (g.findById id given).runFrom session
      = follow (fun rows => pure (rows.head?.map g.build))
        ((g.fetch .findById (.findById g.table key id)).runFrom session) := by
    rw [findById, keyForId_of_usesKey h]
    exact runFrom_bind (g.fetch .findById (.findById g.table key id))
      (fun rows => pure (rows.head?.map g.build)) session
  rw [hfetch, runFrom_fetch]
  rcases g.fetched .findById (.findById g.table key id) session with ⟨_ | rows, after⟩ <;> rfl

theorem runFrom_findById_of_lacksKey {e : Error} (h : g.LacksKey given e) :
    (g.findById id given).runFrom session = (.error e, session) := by
  rw [findById, keyForId_of_lacksKey h]
  rfl

theorem runFrom_deleteById_eq_error_iff {e : Error} :
    (g.deleteById id given).runFrom session = (.error e, session) ↔ g.LacksKey given e := by
  refine run_eq_error_iff (fun _ => runFrom_deleteById_of_lacksKey) fun key hkey => ?_
  rw [runFrom_deleteById_of_usesKey hkey]
  exact ⟨_, rfl⟩

theorem runFrom_findById_eq_error_iff {e : Error} :
    (g.findById id given).runFrom session = (.error e, session) ↔ g.LacksKey given e := by
  refine run_eq_error_iff (fun _ => runFrom_findById_of_lacksKey) fun key hkey => ?_
  rw [runFrom_findById_of_usesKey hkey]
  exact ⟨_, rfl⟩

theorem runFrom_delete (g : Gateway δ α) (record : Record) (keys : List String)
    (session : Session δ σ) :
    (g.delete record keys).runFrom session
      = match Statement.delete g.table record (g.resolveKeys keys) with
        | .ok statement => g.executed .delete statement session
        | .error e => (.error e, session) :=
  g.runFrom_liftM_execute .delete (Statement.delete g.table record (g.resolveKeys keys)) session

/-- There is one key for access by a single value, or one reason why there is none. For that reason,
and for no other before anything is sent, deleting and finding by the value are both refused; with
the key they have the same conditions and parameters. Where no key is named and the table has one,
deleting a record sends the very statement that deletes by the value which the record has for it,
null if it has none; and where the table has none that is missed either way. -/
theorem byId_agrees (g : Gateway δ α) (id : Value) (given : Option String)
    (session : Session δ σ) :
    ((∃ key, g.UsesKey given key) ∨ ∃ e, g.LacksKey given e)
      ∧ (∀ e, ((g.deleteById id given).runFrom session = (.error e, session)
          ↔ g.LacksKey given e)
        ∧ ((g.findById id given).runFrom session = (.error e, session) ↔ g.LacksKey given e))
      ∧ (∀ key, g.UsesKey given key →
        let selecting := Identifier.backticked g.table ++ " WHERE " ++ Statement.conditions [key]
        (g.deleteById id given).runFrom session
            = g.executed .deleteById ⟨"DELETE FROM " ++ selecting, [id]⟩ session
          ∧ (g.findById id given).runFrom session
            = g.answeringFirst (g.fetched .findById ⟨"SELECT * FROM " ++ selecting, [id]⟩ session))
      ∧ (Unnamed given → ∀ record : Record,
        (∀ key, g.resolveKeys [] = [key] → ∃ statement,
          (g.delete record []).runFrom session = g.executed .delete statement session
            ∧ (g.deleteById ((record.get? key).getD .null) given).runFrom session
              = g.executed .deleteById statement session)
        ∧ (g.resolveKeys [] = [] →
          (g.delete record []).runFrom session = (.error (.noKey g.table), session)
            ∧ (g.deleteById id given).runFrom session
              = (.error (.noKey g.table), session))) := by
  refine ⟨g.usesKey_or_lacksKey given,
    fun e => ⟨runFrom_deleteById_eq_error_iff, runFrom_findById_eq_error_iff⟩,
    fun key hkey => ?_, fun hunnamed record => ⟨fun key hfound => ?_, fun hfound => ?_⟩⟩
  · have hdelete : Statement.deleteById g.table key id
        = ⟨"DELETE FROM " ++ (Identifier.backticked g.table ++ " WHERE "
          ++ Statement.conditions [key]), [id]⟩ := by
      unfold Statement.deleteById
      rw [String.append_assoc, String.append_assoc, String.append_assoc]
    have hfind : Statement.findById g.table key id
        = ⟨"SELECT * FROM " ++ (Identifier.backticked g.table ++ " WHERE "
          ++ Statement.conditions [key]), [id]⟩ := by
      unfold Statement.findById
      rw [String.append_assoc, String.append_assoc, String.append_assoc]
    intro selecting
    rw [runFrom_deleteById_of_usesKey hkey, runFrom_findById_of_usesKey hkey, hdelete, hfind]
    exact ⟨rfl, rfl⟩
  · refine ⟨_, ?_, runFrom_deleteById_of_usesKey (.only hunnamed hfound)⟩
    rw [runFrom_delete, hfound, Statement.delete_singleton]
  · refine ⟨?_, runFrom_deleteById_of_lacksKey (.noKey hunnamed hfound)⟩
    rw [runFrom_delete, hfound]
    rfl

/-- An empty name for a table with one key, and a record without it; then no name, and two keys, and
no key, and a name that is not among the keys. -/
theorem byId_agrees_users :
    let g : Gateway ScriptedDriver Row := toTable ⟨"main", .plain⟩ "users"
    let pair := g.configure (.keys (KeyRules.standard.mapTable "users" (.composite ["a", "b"])))
    let keyless := g.configure (.keys (KeyRules.standard.mapTable "users" (.composite [])))
    let record := Record.row (Row.empty.set "name" (.text "Ann"))
    let session : Session ScriptedDriver Script := ⟨{}, []⟩
    ((g.delete record []).runFrom session).2.calls
        = ((g.deleteById .null (some "")).runFrom session).2.calls
      ∧ (pair.deleteById (.int 7) none).runFrom session = (.error (.splitKey "users" 2), session)
      ∧ (pair.findById (.int 7) none).runFrom session = (.error (.splitKey "users" 2), session)
      ∧ (keyless.delete record []).runFrom session = (.error (.noKey "users"), session)
      ∧ ((pair.findById (.int 7) (some "id")).runFrom session).2.calls
        = [(⟨"main", .plain⟩, .query, ⟨"SELECT * FROM `users` WHERE `id` = ?", [.int 7]⟩)] := by
  intro g pair keyless record session
  have hempty : Unnamed (some "") := fun key hkey => (Option.some.inj hkey).symm
  have hnone : Unnamed none := fun key hkey => nomatch hkey
  have hsplit : pair.LacksKey none (.splitKey "users" 2) := .splitKey hnone (by decide +kernel)
  have hnamed : pair.UsesKey (some "id") "id" := .named rfl (by decide)
  obtain ⟨-, -, -, hrecord⟩ := byId_agrees g .null (some "") session
  obtain ⟨statement, hdelete, hdeleteById⟩ :=
    (hrecord hempty record).1 "users_id" (by decide +kernel)
  obtain ⟨-, hrefused, -, -⟩ := byId_agrees pair (.int 7) none session
  obtain ⟨-, -, hchosen, -⟩ := byId_agrees pair (.int 7) (some "id") session
  obtain ⟨-, -, -, hkeyless⟩ := byId_agrees keyless (.int 7) none session
  refine ⟨?_, (hrefused _).1.mpr hsplit, (hrefused _).2.mpr hsplit,
    ((hkeyless hnone record).2 rfl).1, ?_⟩
  · have hvalue : (record.get? "users_id").getD .null = .null := by rfl
    rw [hvalue] at hdeleteById
    rw [hdelete, hdeleteById]
    rfl
  · rw [(hchosen "id" hnamed).2]
    exact congrArg (fun sql => [(g.driver, Method.query, (⟨sql, [.int 7]⟩ : Statement))])
      (by decide +kernel)

end Gateway

end TableGateway
