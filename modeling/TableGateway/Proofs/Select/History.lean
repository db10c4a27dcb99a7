import Mathlib.Data.List.DropRight
import TableGateway.Select.Builder
import TableGateway.Select.Render
import TableGateway.Value.Text

/-!
# What the history of a statement leaves

A statement under construction has a history: it began empty or on a table, and steps were taken. A
step changes one part of the statement, so each part can be read off the history by itself: a list
holds what was added since it was last cleared, and a setting is as it was last set. Sources and
extra columns are one part, because dropping the columns takes the fields of the sources along.

Steps that change different parts can therefore change places, and steps behind a union change
nothing but the block.

Main statements: `apply_ofSteps`, `only_applyAll_filter`, `result_clausewise`.
-/

namespace TableGateway.Select

variable {α : Type} {quote : Value → String}

/-! ## Lists that are added to and cleared -/

/-- What a step does to a list. -/
inductive Change (α : Type) where
  | keep
  | add (item : α)
  | clear

namespace Change

/-- The list after the change. -/
def on : Change α → List α → List α
  | .keep, items => items
  | .add item, items => items ++ [item]
  | .clear, _ => []

def isClear : Change α → Bool
  | .clear => true
  | .keep | .add _ => false

def added? : Change α → Option α
  | .add item => some item
  | .keep | .clear => none

end Change

/-- The steps behind the last one that clears. -/
def sinceClear (clears : Step → Bool) (steps : List Step) : List Step :=
  steps.rtakeWhile fun step => !clears step

/-- The items that were added since the list was last cleared, in order. -/
def listed (change : Step → Change α) (steps : List Step) : List α :=
  (sinceClear (fun step => (change step).isClear) steps).filterMap fun step => (change step).added?

/-- What the last step that sets something sets. -/
def lastSet (set? : Step → Option α) (steps : List Step) : Option α :=
  (steps.filterMap set?).getLast?

theorem sinceClear_concat (clears : Step → Bool) (steps : List Step) (step : Step) :
    sinceClear clears (steps ++ [step])
      = if clears step then [] else sinceClear clears steps ++ [step] := by
  rw [sinceClear, List.rtakeWhile_concat]
  cases clears step <;> rfl

/-- Each further step does to the list what it does to lists. -/
theorem listed_concat (change : Step → Change α) (steps : List Step) (step : Step) :
    listed change (steps ++ [step]) = (change step).on (listed change steps) := by
  rw [listed, sinceClear_concat]
  cases hchange : change step with
  | keep => simp [Change.isClear, Change.on, Change.added?, hchange, listed]
  | add item => simp [Change.isClear, Change.on, Change.added?, hchange, listed]
  | clear => rfl

theorem lastSet_concat (set? : Step → Option α) (steps : List Step) (step : Step) :
    lastSet set? (steps ++ [step]) = (set? step).or (lastSet set? steps) := by
  rw [lastSet, List.filterMap_append, List.getLast?_append]
  cases hset : set? step <;> simp [hset, lastSet]

/-! ## The parts of a statement -/

/-- A part of a statement that no step on another part touches. -/
inductive Clause where
  | distinct
  | counting
  /-- The sources with their fields, and the extra columns. -/
  | selection
  | joins
  | filters (clause : FilterClause)
  | grouping
  | ordering
  | limit
  | unions
  deriving DecidableEq, Repr

namespace Step

/-- The part that a step changes. -/
def clause : Step → Clause
  | .distinct => .distinct
  | .count _ => .counting
  | .addSource .. | .clearSources | .addColumn _ | .clearColumns => .selection
  | .addJoin .. | .clearJoins => .joins
  | .addFilter clause .. | .clearFilters clause => .filters clause
  | .addGroup _ | .clearGroups => .grouping
  | .addOrder .. | .clearOrder => .ordering
  | .limit .. | .clearLimit => .limit
  | .addUnion .. => .unions

def isDistinct : Step → Bool
  | .distinct => true
  | _ => false

def counting? : Step → Option Counting
  | .count field => some (.ofField field)
  | _ => none

def clearsSources : Step → Bool
  | .clearSources => true
  | _ => false

def clearsColumns : Step → Bool
  | .clearColumns => true
  | _ => false

def columnChange : Step → Change String
  | .addColumn expr => .add expr
  | .clearColumns => .clear
  | _ => .keep

def joinChange (quote : Value → String) : Step → Change Join
  | .addJoin kind relation condition fields =>
    .add ⟨kind, relation, condition.text quote, fields⟩
  | .clearJoins => .clear
  | _ => .keep

/-- What a step does to the conditions before or after grouping. -/
def filterChange (quote : Value → String) (clause : FilterClause) : Step → Change Filter
  | .addFilter other connective condition =>
    if other = clause then .add ⟨connective, condition.text quote⟩ else .keep
  | .clearFilters other => if other = clause then .clear else .keep
  | _ => .keep

def groupChange : Step → Change String
  | .addGroup expr => .add expr
  | .clearGroups => .clear
  | _ => .keep

def orderChange : Step → Change OrderTerm
  | .addOrder expr descending => .add ⟨expr, descending⟩
  | .clearOrder => .clear
  | _ => .keep

/-- What a step leaves as the limit, where it changes it. -/
def limitSet? : Step → Option (Option Limit)
  | .limit most skip => some (some ⟨most, skip⟩)
  | .clearLimit => some none
  | _ => none

def union? : Step → Option (UnionKind × Select)
  | .addUnion kind branch => some (kind, branch)
  | _ => none

end Step

/-- The sources that steps add. A source has its own fields, unless a later step drops them. -/
def sourcesAdded : List Step → List Source
  | [] => []
  | .addSource relation fields :: later =>
    ⟨relation, if later.any Step.clearsColumns then [] else fields⟩ :: sourcesAdded later
  | _ :: later => sourcesAdded later

/-- The sources that were added since they were last cleared. -/
def sourcesListed (steps : List Step) : List Source :=
  sourcesAdded (sinceClear Step.clearsSources steps)

/-- The statement that steps leave of nothing, each of its parts read off by itself. -/
def ofSteps (quote : Value → String) (steps : List Step) : Select where
  block :=
    { sources := sourcesListed steps
      columns := listed Step.columnChange steps
      joins := listed (Step.joinChange quote) steps
      filters := listed (Step.filterChange quote .rows) steps
      grouping := listed Step.groupChange steps
      groupFilters := listed (Step.filterChange quote .groups) steps
      ordering := listed Step.orderChange steps
      limit := (lastSet Step.limitSet? steps).join
      distinct := steps.any Step.isDistinct
      counting := (lastSet Step.counting? steps).getD .off }
  branches := steps.filterMap Step.union?

/-! ## One more step -/

/-- What a step does to the sources. -/
def Step.onSources : Step → List Source → List Source
  | .addSource relation fields, sources => sources ++ [⟨relation, fields⟩]
  | .clearSources, _ => []
  | .clearColumns, sources => sources.map fun source => { source with fields := [] }
  | _, sources => sources

theorem sourcesAdded_concat {step : Step} (h : step.clearsSources = false) (steps : List Step) :
    sourcesAdded (steps ++ [step]) = step.onSources (sourcesAdded steps) := by
  induction steps with
  | nil =>
    cases step with
    | clearSources => contradiction
    | _ => rfl
  | cons first later ih =>
    rw [List.cons_append]
    cases first with
    | addSource relation fields =>
      rw [sourcesAdded, sourcesAdded, ih, List.any_append]
      cases step with
      | clearSources => contradiction
      | _ => simp [Step.onSources, Step.clearsColumns]
    | _ => exact ih

/-- Each further step does to the sources what it does to sources. -/
theorem sourcesListed_concat (steps : List Step) (step : Step) :
    sourcesListed (steps ++ [step]) = step.onSources (sourcesListed steps) := by
  rw [sourcesListed, sinceClear_concat]
  cases hclears : step.clearsSources with
  | false => exact sourcesAdded_concat hclears _
  | true =>
    cases step with
    | clearSources => rfl
    | _ => contradiction

/-- What a step does to each part of a statement. -/
theorem apply_eq (s : Select) (step : Step) :
    s.apply quote step =
      { block :=
          { sources := step.onSources s.block.sources
            columns := step.columnChange.on s.block.columns
            joins := (step.joinChange quote).on s.block.joins
            filters := (step.filterChange quote .rows).on s.block.filters
            grouping := step.groupChange.on s.block.grouping
            groupFilters := (step.filterChange quote .groups).on s.block.groupFilters
            ordering := step.orderChange.on s.block.ordering
            limit := step.limitSet?.getD s.block.limit
            distinct := if step.isDistinct then true else s.block.distinct
            counting := step.counting?.getD s.block.counting }
        branches := step.union?.elim s.branches fun entry => s.branches ++ [entry] } := by
  cases step with
  | addFilter clause connective condition => cases clause <;> rfl
  | clearFilters clause => cases clause <;> rfl
  | _ => rfl

/-- Taking one more step leaves what the longer history leaves. -/
theorem apply_ofSteps (steps : List Step) (step : Step) :
    (ofSteps quote steps).apply quote step = ofSteps quote (steps ++ [step]) := by
  have hlimit : step.limitSet?.getD (lastSet Step.limitSet? steps).join
      = (lastSet Step.limitSet? (steps ++ [step])).join := by
    rw [lastSet_concat]
    cases step.limitSet? <;> rfl
  have hcounting : step.counting?.getD ((lastSet Step.counting? steps).getD .off)
      = (lastSet Step.counting? (steps ++ [step])).getD .off := by
    rw [lastSet_concat]
    cases step.counting? <;> rfl
  have hdistinct : (if step.isDistinct then true else steps.any Step.isDistinct)
      = (steps ++ [step]).any Step.isDistinct := by
    rw [List.any_append]
    cases hstep : step.isDistinct <;> simp [hstep]
  have hbranches : (step.union?.elim (steps.filterMap Step.union?) fun entry =>
      steps.filterMap Step.union? ++ [entry]) = (steps ++ [step]).filterMap Step.union? := by
    rw [List.filterMap_append]
    cases hstep : step.union? <;> simp [hstep]
  simp only [apply_eq, ofSteps, listed_concat, sourcesListed_concat, hlimit, hcounting, hdistinct,
    hbranches]

/-- Steps that follow others leave what all of them leave together. -/
theorem applyAll_ofSteps (before steps : List Step) :
    Builder.applyAll ⟨quote, ofSteps quote before⟩ steps
      = ⟨quote, ofSteps quote (before ++ steps)⟩ := by
  induction steps generalizing before with
  | nil => rw [List.append_nil]; rfl
  | cons step steps ih =>
    have hstep : Builder.apply ⟨quote, ofSteps quote before⟩ step
        = ⟨quote, ofSteps quote (before ++ [step])⟩ := by
      rw [Builder.apply, apply_ofSteps]
    have hrest := ih (before ++ [step])
    rw [List.append_assoc, List.singleton_append, ← hstep] at hrest
    exact hrest

/-! ## Parts do not interfere -/

/-- The statement with one part only. -/
def only (s : Select) : Clause → Select
  | .distinct => { block := { distinct := s.block.distinct } }
  | .counting => { block := { counting := s.block.counting } }
  | .selection => { block := { sources := s.block.sources, columns := s.block.columns } }
  | .joins => { block := { joins := s.block.joins } }
  | .filters .rows => { block := { filters := s.block.filters } }
  | .filters .groups => { block := { groupFilters := s.block.groupFilters } }
  | .grouping => { block := { grouping := s.block.grouping } }
  | .ordering => { block := { ordering := s.block.ordering } }
  | .limit => { block := { limit := s.block.limit } }
  | .unions => { branches := s.branches }

/-- A statement is nothing but its parts. -/
theorem eq_of_only_eq {s t : Select} (h : ∀ clause, s.only clause = t.only clause) : s = t := by
  have hpart : ∀ {β : Type} (part : Select → β) (clause : Clause),
      part (s.only clause) = part (t.only clause) := fun part clause => congrArg part (h clause)
  obtain ⟨⟨_, _, _, _, _, _, _, _, _, _⟩, _⟩ := s
  obtain ⟨⟨_, _, _, _, _, _, _, _, _, _⟩, _⟩ := t
  obtain rfl := hpart (fun s => s.block.sources) .selection
  obtain rfl := hpart (fun s => s.block.columns) .selection
  obtain rfl := hpart (fun s => s.block.joins) .joins
  obtain rfl := hpart (fun s => s.block.filters) (.filters .rows)
  obtain rfl := hpart (fun s => s.block.grouping) .grouping
  obtain rfl := hpart (fun s => s.block.groupFilters) (.filters .groups)
  obtain rfl := hpart (fun s => s.block.ordering) .ordering
  obtain rfl := hpart (fun s => s.block.limit) .limit
  obtain rfl := hpart (fun s => s.block.distinct) .distinct
  obtain rfl := hpart (fun s => s.block.counting) .counting
  obtain rfl := hpart (fun s => s.branches) .unions
  rfl

/-- What a step makes of a part, it makes of this part alone. -/
theorem only_apply (s : Select) (step : Step) (clause : Clause) :
    (s.apply quote step).only clause = ((s.only clause).apply quote step).only clause := by
  rw [apply_eq, apply_eq]
  cases clause with
  | filters clause => cases clause <;> rfl
  | _ => rfl

/-- A step leaves all parts as they are but its own. -/
theorem only_apply_of_ne {step : Step} {clause : Clause} (h : step.clause ≠ clause) (s : Select) :
    (s.apply quote step).only clause = s.only clause := by
  rw [apply_eq]
  cases clause with
  | distinct =>
    cases step with
    | distinct => contradiction
    | _ => rfl
  | counting =>
    cases step with
    | count => contradiction
    | _ => rfl
  | selection =>
    cases step with
    | addSource | clearSources | addColumn | clearColumns => contradiction
    | _ => rfl
  | joins =>
    cases step with
    | addJoin | clearJoins => contradiction
    | _ => rfl
  | filters clause =>
    -- A step on conditions has to be on those of the other clause.
    cases step with
    | addFilter other =>
      have hother : ¬ other = clause := fun e => h (congrArg Clause.filters e)
      cases clause <;> simp only [only, Step.filterChange, if_neg hother] <;> rfl
    | clearFilters other =>
      have hother : ¬ other = clause := fun e => h (congrArg Clause.filters e)
      cases clause <;> simp only [only, Step.filterChange, if_neg hother] <;> rfl
    | _ => cases clause <;> rfl
  | grouping =>
    cases step with
    | addGroup | clearGroups => contradiction
    | _ => rfl
  | ordering =>
    cases step with
    | addOrder | clearOrder => contradiction
    | _ => rfl
  | limit =>
    cases step with
    | limit | clearLimit => contradiction
    | _ => rfl
  | unions =>
    cases step with
    | addUnion => contradiction
    | _ => rfl

/-- For a part, the steps on it are all that counts. -/
theorem only_applyAll_filter {s t : Select} {clause : Clause} (h : s.only clause = t.only clause)
    (steps : List Step) :
    (Builder.applyAll ⟨quote, s⟩ (steps.filter fun step => step.clause = clause)).select.only clause
      = (Builder.applyAll ⟨quote, t⟩ steps).select.only clause := by
  induction steps generalizing s t with
  | nil => exact h
  | cons step steps ih =>
    by_cases hstep : step.clause = clause
    · rw [List.filter_cons_of_pos (by simpa using hstep)]
      refine ih ?_
      rw [only_apply, h, ← only_apply]
    · rw [List.filter_cons_of_neg (by simpa using hstep)]
      refine ih ?_
      rw [only_apply_of_ne hstep, h]

/-- Steps that agree for each part have one result. -/
theorem select_applyAll_congr {start : Select} {steps others : List Step}
    (h : ∀ clause, others.filter (fun step => step.clause = clause)
      = steps.filter fun step => step.clause = clause) :
    (Builder.applyAll ⟨quote, start⟩ others).select
      = (Builder.applyAll ⟨quote, start⟩ steps).select := by
  refine eq_of_only_eq fun clause => ?_
  rw [← only_applyAll_filter rfl others, h clause, only_applyAll_filter rfl]

/-! ## Histories -/

/-- How a statement came about: it began empty or on a table, and steps were taken. -/
structure History where
  table : Option String := none
  steps : List Step

namespace History

/-- The statement at the beginning. -/
def start (h : History) : Select := h.table.elim .empty ofTable

/-- The statement at the end. -/
def result (quote : Value → String) (h : History) : Select :=
  (Builder.applyAll ⟨quote, h.start⟩ h.steps).select

/-- All steps from nothing. A statement that begins on a table has the table as its first source. -/
def allSteps (h : History) : List Step :=
  (h.table.map fun table => .addSource ⟨table, some baseLabel⟩ allFields).toList ++ h.steps

theorem result_eq (h : History) :
    h.result quote = (Builder.applyAll ⟨quote, .empty⟩ h.allSteps).select := by
  obtain ⟨table, steps⟩ := h
  cases table <;> rfl

end History

theorem Step.union?_eq_none {step : Step} (h : step.clause ≠ .unions) : step.union? = none := by
  cases step with
  | addUnion => contradiction
  | _ => rfl

/-- A statement holds, in each of its parts, what the steps on this part have left: of a list what
was added since it was last cleared, of the sources with no fields those before columns were
dropped, of a setting what was set last, and all unions. So the order in which steps on different
parts were taken has no influence on the text, and steps behind a union, unless they are unions
themselves, leave all branches as they are. -/
theorem result_clausewise (quote : Value → String) (h : History) :
    h.result quote = ofSteps quote h.allSteps
      ∧ (∀ other : History,
          (∀ clause, other.allSteps.filter (fun step => step.clause = clause)
            = h.allSteps.filter fun step => step.clause = clause) →
          (other.result quote).toSql = (h.result quote).toSql)
      ∧ ∀ more : List Step, (∀ step ∈ more, step.clause ≠ .unions) →
          (History.result quote ⟨h.table, h.steps ++ more⟩).branches
            = (h.result quote).branches := by
  have hread : ∀ h : History, h.result quote = ofSteps quote h.allSteps := fun h => by
    rw [History.result_eq]
    exact congrArg Builder.select (applyAll_ofSteps [] h.allSteps)
  refine ⟨hread h, fun other hother => ?_, fun more hmore => ?_⟩
  · rw [History.result_eq, History.result_eq, select_applyAll_congr hother]
  · have hsteps : History.allSteps ⟨h.table, h.steps ++ more⟩ = h.allSteps ++ more :=
      (List.append_assoc _ _ _).symm
    have hnone : more.filterMap Step.union? = [] :=
      List.filterMap_eq_nil_iff.mpr fun step hstep => Step.union?_eq_none (hmore step hstep)
    rw [hread, hread, hsteps]
    simp only [ofSteps, List.filterMap_append, hnone, List.append_nil]

/-- Steps on a table and, in another order, steps from nothing: the columns are dropped in between,
the sources are not, and the order is given behind the union. Clearing the order there leaves the
branch with what it has. -/
theorem result_clausewise_reordered :
    let h : History :=
      { table := some "users"
        steps := [.addFilter .rows .and ⟨"a.name = ?", [.text "x"]⟩, .addColumn "old",
          .clearColumns, .addUnion .all (ofTable "orders"), .addColumn "id",
          .addSource ⟨"logs", none⟩ ["at"], .addOrder "id" true] }
    let other : History :=
      { steps := [.addOrder "id" true, .addSource ⟨"users", some baseLabel⟩ allFields,
          .addColumn "old", .clearColumns, .addColumn "id", .addSource ⟨"logs", none⟩ ["at"],
          .addUnion .all (ofTable "orders"),
          .addFilter .rows .and ⟨"a.name = ?", [.text "x"]⟩] }
    (∀ clause, other.allSteps.filter (fun step => step.clause = clause)
        = h.allSteps.filter fun step => step.clause = clause)
      ∧ (other.result Value.literal).toSql
        = "(SELECT a.`id`,`at`,`id` FROM `users` a,`logs` WHERE a.name = 'x' ORDER BY `id` DESC)"
          ++ " UNION ALL (SELECT a.* FROM `orders` a)"
      ∧ (∀ step ∈ [Step.clearOrder, .clearSources], step.clause ≠ .unions)
      ∧ (History.result Value.literal
          ⟨h.table, h.steps ++ [.clearOrder, .clearSources]⟩).branches.map
            (fun entry => (entry.1, entry.2.toSql))
        = [(.all, "SELECT a.* FROM `orders` a")] := by
  intro h other
  have hagree : ∀ clause, other.allSteps.filter (fun step => step.clause = clause)
      = h.allSteps.filter fun step => step.clause = clause := by
    intro clause
    cases clause with
    | filters clause => cases clause <;> rfl
    | _ => rfl
  have hmore : ∀ step ∈ [Step.clearOrder, .clearSources], step.clause ≠ .unions := by
    simp [Step.clause]
  obtain ⟨-, htext, hbranches⟩ := result_clausewise Value.literal h
  refine ⟨hagree, (htext other hagree).trans (by decide +kernel), hmore, ?_⟩
  rw [hbranches _ hmore]
  decide +kernel

end TableGateway.Select
