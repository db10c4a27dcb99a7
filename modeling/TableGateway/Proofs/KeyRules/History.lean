import TableGateway.Proofs.KeyRules.Scheme
import TableGateway.Proofs.LastWord

/-!
# Key rules and their history

Rules come about in steps that set the scheme, drop it, list the keys of one table or replace all
lists. Each step says something about the scheme, or about what is listed for a table, or nothing
about either; and of the steps that say something the last one has the last word. So the keys of a
table can be read off the history, and the steps on other tables have no part in it.

Main statements: `resolve_eq_iff`, `resolve_applyAll_congr`.
-/

namespace TableGateway

namespace KeyRules

/-! ## Changes -/

/-- A step in which rules are changed. -/
inductive Change where
  | scheme (text : String)
  | noScheme
  | mapTable (table : String) (key : TableKey)
  | mappings (lists : OrderedMap TableKey)

namespace Change

/-- What a change says about the scheme. -/
def scheme? : Change → Option (Option String)
  | .scheme text => some (some text)
  | .noScheme => some none
  | .mapTable .. | .mappings _ => none

/-- What a change says about the keys that are listed for a table. -/
def listing? (table : String) : Change → Option (Option TableKey)
  | .mapTable other key => if other = table then some (some key) else none
  | .mappings lists => some (lists.get? table)
  | .scheme _ | .noScheme => none

end Change

/-- The rules after a change. -/
def apply (rules : KeyRules) : Change → KeyRules
  | .scheme text => rules.withScheme text
  | .noScheme => rules.withoutScheme
  | .mapTable table key => rules.mapTable table key
  | .mappings lists => rules.withMappings lists

/-- The rules after several changes. -/
def applyAll (rules : KeyRules) (changes : List Change) : KeyRules := changes.foldl apply rules

theorem applyAll_append (rules : KeyRules) (changes more : List Change) :
    rules.applyAll (changes ++ more) = (rules.applyAll changes).applyAll more :=
  List.foldl_append

theorem scheme_setBy : SetBy apply KeyRules.scheme Change.scheme? := by
  intro rules change
  cases change <;> rfl

theorem listing_setBy (table : String) :
    SetBy apply (fun rules => rules.mappings.get? table) (Change.listing? table) := by
  intro rules change
  cases change with
  | mapTable other key =>
    have hput : (rules.mapTable other key).mappings.get? table
        = if table = other then some key else rules.mappings.get? table :=
      Entries.find?_put other table key rules.mappings.entries
    show (rules.mapTable other key).mappings.get? table = _
    rw [hput, Change.listing?]
    by_cases hsame : other = table
    · rw [if_pos hsame, if_pos hsame.symm, Option.getD_some]
    · rw [if_neg hsame, if_neg (Ne.symm hsame), Option.getD_none]
  | _ => rfl

/-- Changes of the scheme leave all lists as they are. -/
theorem mappings_applyAll {changes : List Change} (h : ∀ change ∈ changes, change.scheme? ≠ none)
    (rules : KeyRules) : (rules.applyAll changes).mappings = rules.mappings := by
  induction changes generalizing rules with
  | nil => rfl
  | cons change changes ih =>
    have hchange := h change List.mem_cons_self
    have hmappings : (rules.apply change).mappings = rules.mappings := by
      cases change with
      | scheme | noScheme => rfl
      | mapTable | mappings => exact absurd rfl hchange
    exact (ih (fun later hlater => h later (List.mem_cons_of_mem _ hlater)) _).trans hmappings

/-- The changes that make any rules the given ones. -/
def changesTo (rules : KeyRules) : List Change :=
  [.mappings rules.mappings, rules.scheme.elim .noScheme .scheme]

theorem applyAll_changesTo (rules other : KeyRules) : other.applyAll rules.changesTo = rules := by
  obtain ⟨mappings, scheme⟩ := rules
  cases scheme <;> rfl

/-! ## Keys -/

/-- How the keys of a table are found, from what is listed for it and the scheme: keys that are
given win, and keys that are listed come before the scheme even if the list is empty. -/
inductive Finds (table : String) (listed : Option TableKey) (scheme : Option String) :
    List String → List String → Prop where
  | given {explicit : List String} (h : explicit ≠ []) :
    Finds table listed scheme explicit explicit
  | listed {key : TableKey} (hlisted : listed = some key) : Finds table listed scheme [] key.fields
  | named {text name : String} (hlisted : listed = none) (hscheme : scheme = some text)
    (hname : Filled table.toList text.toList name.toList) : Finds table listed scheme [] [name]
  | nothing (hlisted : listed = none) (hscheme : scheme = none) : Finds table listed scheme [] []

theorem resolve_of_ne_nil {rules : KeyRules} {table : String} {keys : List String}
    (h : keys ≠ []) : rules.resolve table keys = keys := by
  rw [resolve, if_neg]
  rwa [List.isEmpty_iff]

theorem finds_resolve (rules : KeyRules) (table : String) (explicit : List String) :
    Finds table (rules.mappings.get? table) rules.scheme explicit
      (rules.resolve table explicit) := by
  cases explicit with
  | cons key keys => exact .given (List.cons_ne_nil key keys)
  | nil =>
    rw [resolve, if_pos List.isEmpty_nil]
    cases hlisted : rules.mappings.get? table with
    | some key => exact .listed rfl
    | none =>
      cases hscheme : rules.scheme with
      | none => exact .nothing rfl rfl
      | some text =>
        refine .named rfl rfl (filled_iff.mpr ?_)
        exact String.toList_ofList.symm

theorem resolve_eq_iff {rules : KeyRules} {table : String} {explicit keys : List String} :
    rules.resolve table explicit = keys
      ↔ Finds table (rules.mappings.get? table) rules.scheme explicit keys := by
  constructor
  · rintro rfl
    exact rules.finds_resolve table explicit
  · intro hfinds
    cases hfinds with
    | given hgiven => exact resolve_of_ne_nil hgiven
    | listed hlisted => rw [resolve, if_pos List.isEmpty_nil, hlisted]
    | named hlisted hscheme hname =>
      rw [resolve, if_pos List.isEmpty_nil, hlisted, hscheme, Option.map_some, schemeKey,
        filled_iff.mp hname, String.ofList_toList, Option.toList_some]
    | nothing hlisted hscheme =>
      rw [resolve, if_pos List.isEmpty_nil, hlisted, hscheme, Option.map_none, Option.toList_none]

/-- What was found is found again. -/
theorem resolve_resolve (rules : KeyRules) (table : String) (explicit : List String) :
    rules.resolve table (rules.resolve table explicit) = rules.resolve table explicit := by
  by_cases hfound : rules.resolve table explicit = []
  · -- Nothing is found only where nothing was given.
    have hgiven : explicit = [] := by
      by_contra hne
      exact hne ((resolve_of_ne_nil hne).symm.trans hfound)
    rw [hfound]
    rwa [hgiven] at hfound
  · exact resolve_of_ne_nil hfound

/-- What is listed for a table and the scheme are all that counts. -/
theorem resolve_congr {rules other : KeyRules} {table : String}
    (hlisted : other.mappings.get? table = rules.mappings.get? table)
    (hscheme : other.scheme = rules.scheme) (explicit : List String) :
    other.resolve table explicit = rules.resolve table explicit := by
  rw [resolve_eq_iff, hlisted, hscheme]
  exact rules.finds_resolve table explicit

/-- Changes that say the same about a table and about the scheme give it the same keys. -/
theorem resolve_applyAll_congr {rules other : KeyRules} {table : String}
    {changes others : List Change}
    (hlisted : other.mappings.get? table = rules.mappings.get? table)
    (hscheme : other.scheme = rules.scheme)
    (hlistings : others.filterMap (Change.listing? table)
      = changes.filterMap (Change.listing? table))
    (hschemes : others.filterMap Change.scheme? = changes.filterMap Change.scheme?)
    (explicit : List String) :
    (other.applyAll others).resolve table explicit
      = (rules.applyAll changes).resolve table explicit :=
  resolve_congr ((listing_setBy table).part_foldl_congr hlisted hlistings)
    (scheme_setBy.part_foldl_congr hscheme hschemes) explicit

end KeyRules

end TableGateway
