/-!
# SELECT statements

A SELECT statement is a query block, followed by branches that are united with it. A block holds
what its clauses were given, in the order in which it was given; conditions are there as text, with
their values already in them. A branch is a whole statement, with branches of its own.
-/

namespace TableGateway

/-- A table in a statement, with the label by which the statement refers to it. -/
structure Relation where
  table : String
  label : Option String := none
  deriving DecidableEq, Repr

namespace Select

/-- How a condition is tied to the ones before it. -/
inductive Connective where
  | and
  | or
  deriving DecidableEq, Repr

/-- The two clauses that hold conditions on rows: before and after grouping. -/
inductive FilterClause where
  | rows
  | groups
  deriving DecidableEq, Repr

inductive JoinKind where
  | inner
  | left
  | right
  deriving DecidableEq, Repr

inductive UnionKind where
  /-- Repeated rows stay. -/
  | all
  /-- Repeated rows are dropped. -/
  | distinct
  deriving DecidableEq, Repr

/-- What is counted instead of being selected. -/
inductive Counting where
  | off
  | rows
  | distinct (field : String)
  deriving DecidableEq, Repr

/-- Counts rows, or the distinct values of a field where one is given. -/
def Counting.ofField : Option String → Counting
  | none => .rows
  | some field => .distinct field

/-- A table whose rows are selected from, and the fields that are taken of it. -/
structure Source where
  relation : Relation
  fields : List String
  deriving DecidableEq, Repr

structure Filter where
  connective : Connective
  condition : String
  deriving DecidableEq, Repr

structure Join where
  kind : JoinKind
  relation : Relation
  condition : String
  fields : List String
  deriving DecidableEq, Repr

structure OrderTerm where
  expr : String
  descending : Bool
  deriving DecidableEq, Repr

/-- At most `count` rows, after the first `skip`. -/
structure Limit where
  count : Nat
  skip : Option Nat := none
  deriving DecidableEq, Repr

/-- A SELECT without its unions. -/
structure Block where
  sources : List Source := []
  /-- Columns that are taken of every source, beyond its own fields. -/
  columns : List String := []
  joins : List Join := []
  filters : List Filter := []
  grouping : List String := []
  groupFilters : List Filter := []
  ordering : List OrderTerm := []
  limit : Option Limit := none
  distinct : Bool := false
  counting : Counting := .off
  deriving DecidableEq, Repr

end Select

structure Select where
  block : Select.Block := {}
  branches : List (Select.UnionKind × Select) := []

namespace Select

/-- The field list that takes all fields of a table. -/
def allFields : List String := ["*"]

/-- The label of the table that a statement starts from. -/
def baseLabel : String := "a"

/-- The statement without any clause. -/
def empty : Select := {}

/-- The statement that counts rows, or the distinct values of a field, instead of selecting. -/
def counted (s : Select) (field : Option String) : Select :=
  { s with block := { s.block with counting := .ofField field } }

/-- All fields of a table. -/
def ofTable (table : String) : Select :=
  { block := { sources := [⟨⟨table, some baseLabel⟩, allFields⟩] } }

end Select

end TableGateway
