import TableGateway.Driver.Scripted
import TableGateway.Gateway.Basic
import TableGateway.Proofs.KeyRules.History

/-!
# The keys of a gateway and its history

A gateway is set up in steps, and what its keys follow is the last step that has a say: on the
table, on what is listed for this table, and on the scheme. Rules that are given as a whole have a
say on all lists and on the scheme, and they have a history of their own.

Main statements: `keys_setUp`, `resolveKeys_setUp_eq_iff`, `keys_follow_lastWord`.
-/

namespace TableGateway.Gateway

variable {δ σ α : Type}

/-- A step in which a gateway is set up. Rules are put together in steps before they are given. -/
inductive Setup (δ : Type) where
  | table (name : String)
  | driver (other : δ)
  | keys (start : KeyRules) (more : List KeyRules.Change)
  | mappings (lists : OrderedMap TableKey)
  | scheme (text : String)

namespace Setup

def setting : Setup δ → Setting δ
  | .table name => .table name
  | .driver other => .driver other
  | .keys start more => .keys (start.applyAll more)
  | .mappings lists => .mappings lists
  | .scheme text => .scheme text

/-- What a step sets as the table. -/
def table? : Setup δ → Option String
  | .table name => some name
  | .driver _ | .keys .. | .mappings _ | .scheme _ => none

/-- The changes of the rules that a step makes, one after the other. -/
def changes : Setup δ → List KeyRules.Change
  | .table _ | .driver _ => []
  | .keys start more => start.changesTo ++ more
  | .mappings lists => [.mappings lists]
  | .scheme text => [.scheme text]

end Setup

/-- The gateway after a step. -/
def setUpStep (g : Gateway δ α) (step : Setup δ) : Gateway δ α := g.configure step.setting

/-- The gateway after several steps. -/
def setUp (g : Gateway δ α) (steps : List (Setup δ)) : Gateway δ α := steps.foldl setUpStep g

theorem table_setBy :
    SetBy setUpStep (fun g : Gateway δ α => g.table) (Setup.table? : Setup δ → Option String) := by
  intro g step
  cases step <;> rfl

theorem keys_setUpStep (g : Gateway δ α) (step : Setup δ) :
    (g.setUpStep step).keys = g.keys.applyAll step.changes := by
  cases step with
  | keys start more =>
    have hstart : g.keys.applyAll start.changesTo = start :=
      start.applyAll_changesTo g.keys
    show start.applyAll more = g.keys.applyAll (start.changesTo ++ more)
    rw [KeyRules.applyAll_append, hstart]
  | _ => rfl

/-- The rules have the history of all changes. -/
theorem keys_setUp (g : Gateway δ α) (steps : List (Setup δ)) :
    (g.setUp steps).keys = g.keys.applyAll (steps.flatMap Setup.changes) := by
  induction steps generalizing g with
  | nil => rfl
  | cons step steps ih =>
    have hrest : (g.setUp (step :: steps)).keys = ((g.setUpStep step).setUp steps).keys := rfl
    rw [hrest, ih, keys_setUpStep, List.flatMap_cons, KeyRules.applyAll_append]

/-- What keys are found, by the last words in the history. -/
theorem resolveKeys_setUp_eq_iff {g : Gateway δ α} {steps : List (Setup δ)}
    {explicit keys : List String} :
    (g.setUp steps).resolveKeys explicit = keys
      ↔ ∃ table listed scheme, LastWord Setup.table? g.table steps table
        ∧ LastWord (KeyRules.Change.listing? table) (g.keys.mappings.get? table)
          (steps.flatMap Setup.changes) listed
        ∧ LastWord KeyRules.Change.scheme? g.keys.scheme (steps.flatMap Setup.changes) scheme
        ∧ KeyRules.Finds table listed scheme explicit keys := by
  have htable : ∀ {table}, (g.setUp steps).table = table
      ↔ LastWord Setup.table? g.table steps table := table_setBy.part_foldl_eq_iff
  have hlisting : ∀ {table listed},
      (g.keys.applyAll (steps.flatMap Setup.changes)).mappings.get? table = listed
        ↔ LastWord (KeyRules.Change.listing? table) (g.keys.mappings.get? table)
          (steps.flatMap Setup.changes) listed :=
    (KeyRules.listing_setBy _).part_foldl_eq_iff
  have hscheme : ∀ {scheme}, (g.keys.applyAll (steps.flatMap Setup.changes)).scheme = scheme
      ↔ LastWord KeyRules.Change.scheme? g.keys.scheme (steps.flatMap Setup.changes) scheme :=
    KeyRules.scheme_setBy.part_foldl_eq_iff
  rw [resolveKeys, keys_setUp, KeyRules.resolve_eq_iff]
  constructor
  · exact fun hfinds => ⟨_, _, _, htable.mp rfl, hlisting.mp rfl, hscheme.mp rfl, hfinds⟩
  · rintro ⟨table, listed, scheme, htable', hlisted', hscheme', hfinds⟩
    rwa [htable.mpr htable', hlisting.mpr hlisted', hscheme.mpr hscheme']

/-- Keys that are given win. Otherwise the last word on the table, on what is listed for it and on
the scheme decide. Finding keys again changes nothing, lists and scheme do not touch each other, and
what is said of other tables makes no difference. -/
theorem keys_follow_lastWord (g : Gateway δ α) (steps : List (Setup δ)) :
    let changes := steps.flatMap Setup.changes
    (∀ explicit keys, (g.setUp steps).resolveKeys explicit = keys
        ↔ ∃ table listed scheme, LastWord Setup.table? g.table steps table
          ∧ LastWord (KeyRules.Change.listing? table) (g.keys.mappings.get? table) changes listed
          ∧ LastWord KeyRules.Change.scheme? g.keys.scheme changes scheme
          ∧ KeyRules.Finds table listed scheme explicit keys)
      ∧ (∀ explicit, (g.setUp steps).resolveKeys ((g.setUp steps).resolveKeys explicit)
        = (g.setUp steps).resolveKeys explicit)
      ∧ (g.setUp steps).keys = g.keys.applyAll changes
      ∧ (∀ (rules : KeyRules) (more : List KeyRules.Change),
        ((∀ change ∈ more, change.scheme? = none) →
          (rules.applyAll more).scheme = rules.scheme)
        ∧ ((∀ change ∈ more, change.scheme? ≠ none) →
          (rules.applyAll more).mappings = rules.mappings))
      ∧ ∀ (start : KeyRules) (others : List KeyRules.Change) (table : String),
        start.mappings.get? table = g.keys.mappings.get? table →
        start.scheme = g.keys.scheme →
        others.filterMap (KeyRules.Change.listing? table)
          = changes.filterMap (KeyRules.Change.listing? table) →
        others.filterMap KeyRules.Change.scheme? = changes.filterMap KeyRules.Change.scheme? →
        ∀ explicit, (start.applyAll others).resolve table explicit
          = (g.setUp steps).keys.resolve table explicit := by
  intro changes
  have hkeys : (g.setUp steps).keys = g.keys.applyAll changes := g.keys_setUp steps
  refine ⟨fun explicit keys => resolveKeys_setUp_eq_iff,
    fun explicit => KeyRules.resolve_resolve _ _ explicit, hkeys,
    fun rules more => ⟨fun hmore => KeyRules.scheme_setBy.part_foldl_of_silent hmore rules,
      fun hmore => KeyRules.mappings_applyAll hmore rules⟩,
    fun start others table hstart hscheme hlistings hschemes explicit => ?_⟩
  rw [hkeys]
  exact KeyRules.resolve_applyAll_congr hstart hscheme hlistings hschemes explicit

/-- A scheme with two marks for a table with a mark in its name, a table whose list is empty, and
steps that say other things about other tables. -/
theorem keys_follow_lastWord_marks :
    let g : Gateway ScriptedDriver Row := toTable ⟨"main", .plain⟩ "users"
    let lists : OrderedMap TableKey := .ofList [("logs", .composite []), ("sites", .single "url")]
    let text := "\x7btable\x7d/\x7btable\x7d"
    let name := "x\x7btable\x7d"
    let steps : List (Setup ScriptedDriver) :=
      [.keys .standard [.mapTable "users" (.single "uid"), .noScheme], .mappings lists,
        .scheme text, .table name]
    let others : List KeyRules.Change :=
      [.mappings .empty, .scheme "\x7btable\x7d_id", .mapTable "sites" (.single "id"), .noScheme,
        .scheme text, .mappings .empty]
    (g.setUp steps).resolveKeys [] = ["x\x7btable\x7d/x\x7btable\x7d"]
      ∧ (g.setUp steps).resolveKeys ["b", "a"] = ["b", "a"]
      ∧ (g.setUp (steps ++ [.table "logs"])).resolveKeys [] = []
      ∧ (KeyRules.standard.applyAll others).resolve name []
        = (g.setUp steps).keys.resolve name [] := by
  intro g lists text name steps others
  have htable : LastWord Setup.table? g.table steps name := by
    show LastWord _ _ (steps.dropLast ++ .table name :: []) _
    exact .said rfl (by simp)
  have htable' : LastWord Setup.table? g.table (steps ++ [.table "logs"]) "logs" :=
    .said rfl (by simp)
  have hlisted : ∀ table, LastWord (KeyRules.Change.listing? table)
      (g.keys.mappings.get? table) (steps.flatMap Setup.changes) (lists.get? table) := by
    intro table
    show LastWord _ _ ((steps.take 1).flatMap Setup.changes ++ .mappings lists :: [.scheme text]) _
    exact .said rfl (by simp [KeyRules.Change.listing?])
  have hscheme : LastWord KeyRules.Change.scheme? g.keys.scheme (steps.flatMap Setup.changes)
      (some text) := by
    show LastWord _ _ ((steps.take 2).flatMap Setup.changes ++ .scheme text :: []) _
    exact .said rfl (by simp)
  have hname : KeyRules.Filled name.toList text.toList "x\x7btable\x7d/x\x7btable\x7d".toList :=
    KeyRules.filled_iff.mpr (by decide +kernel)
  have hunlisted : lists.get? name = none := by decide +kernel
  have hempty : KeyRules.Finds "logs" (lists.get? "logs") (some text) [] [] :=
    .listed (rfl : _ = some (TableKey.composite []))
  obtain ⟨hfinds, -, -, -, hothers⟩ := keys_follow_lastWord g steps
  have hsame : others.filterMap (KeyRules.Change.listing? name)
      = (steps.flatMap Setup.changes).filterMap (KeyRules.Change.listing? name) := by
    decide +kernel
  have hnamed := (hfinds [] _).mpr
    ⟨name, _, _, htable, hlisted name, hscheme, .named hunlisted rfl hname⟩
  have hgiven := (hfinds ["b", "a"] _).mpr
    ⟨name, _, _, htable, hlisted name, hscheme, .given (by simp)⟩
  have hnone := ((keys_follow_lastWord g (steps ++ [.table "logs"])).1 [] _).mpr
    ⟨"logs", _, _, htable', hlisted "logs", hscheme, hempty⟩
  exact ⟨hnamed, hgiven, hnone, hothers .standard others name rfl rfl hsame rfl []⟩

end TableGateway.Gateway
