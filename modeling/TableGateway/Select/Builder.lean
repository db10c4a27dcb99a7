import TableGateway.Select.Basic
import TableGateway.Template.Condition

/-!
# Building SELECT statements

A statement is built in steps. A step is data: it adds to one clause, or clears one. Applying a
step makes a new statement and leaves the old one as it is, so that a statement that is half built
can be continued in several ways.

Conditions get their values when they are added, through the quotation that the builder was given.
-/

namespace TableGateway.Select

/-- A change to one clause of a statement. -/
inductive Step where
  | distinct
  /-- Counts rows, or the distinct values of a field. -/
  | count (field : Option String)
  | addSource (relation : Relation) (fields : List String)
  | clearSources
  | addColumn (expr : String)
  /-- Drops the extra columns, and the fields of every source as well. -/
  | clearColumns
  | addJoin (kind : JoinKind) (relation : Relation) (condition : Condition)
      (fields : List String)
  | clearJoins
  | addFilter (clause : FilterClause) (connective : Connective) (condition : Condition)
  | clearFilters (clause : FilterClause)
  | addGroup (expr : String)
  | clearGroups
  | addOrder (expr : String) (descending : Bool)
  | clearOrder
  | limit (count : Nat) (skip : Option Nat)
  | clearLimit
  | addUnion (kind : UnionKind) (branch : Select)

namespace Step

/-- The condition that a step adds. -/
def condition? : Step → Option Condition
  | .addJoin _ _ condition _ => some condition
  | .addFilter _ _ condition => some condition
  | _ => none

/-- What a step puts into the log. -/
def events (step : Step) : List Event := (step.condition?.map Condition.events).getD []

end Step

/-- Changes the clauses of the block. -/
def Block.apply (quote : Value → String) (b : Block) : Step → Block
  | .distinct => { b with distinct := true }
  | .count field => { b with counting := .ofField field }
  | .addSource relation fields => { b with sources := b.sources ++ [⟨relation, fields⟩] }
  | .clearSources => { b with sources := [] }
  | .addColumn expr => { b with columns := b.columns ++ [expr] }
  | .clearColumns =>
    { b with columns := [], sources := b.sources.map fun s => { s with fields := [] } }
  | .addJoin kind relation condition fields =>
    { b with joins := b.joins ++ [⟨kind, relation, condition.text quote, fields⟩] }
  | .clearJoins => { b with joins := [] }
  | .addFilter .rows connective condition =>
    { b with filters := b.filters ++ [⟨connective, condition.text quote⟩] }
  | .addFilter .groups connective condition =>
    { b with groupFilters := b.groupFilters ++ [⟨connective, condition.text quote⟩] }
  | .clearFilters .rows => { b with filters := [] }
  | .clearFilters .groups => { b with groupFilters := [] }
  | .addGroup expr => { b with grouping := b.grouping ++ [expr] }
  | .clearGroups => { b with grouping := [] }
  | .addOrder expr descending => { b with ordering := b.ordering ++ [⟨expr, descending⟩] }
  | .clearOrder => { b with ordering := [] }
  | .limit count skip => { b with limit := some ⟨count, skip⟩ }
  | .clearLimit => { b with limit := none }
  | .addUnion .. => b

/-- Applies a step to a statement. Only a union touches the branches. -/
def apply (quote : Value → String) (s : Select) (step : Step) : Select :=
  match step with
  | .addUnion kind branch => { s with branches := s.branches ++ [(kind, branch)] }
  | step => { s with block := s.block.apply quote step }

/-- A statement under construction, with the quotation for the values of its conditions. -/
structure Builder where
  quote : Value → String
  select : Select := .empty

namespace Builder

/-- The builder after one more step. -/
def apply (b : Builder) (step : Step) : Builder :=
  { b with select := b.select.apply b.quote step }

/-- The builder after several steps. -/
def applyAll (b : Builder) (steps : List Step) : Builder := steps.foldl apply b

end Builder

end TableGateway.Select
