import TableGateway.Decimal.Integer
import TableGateway.Identifier
import TableGateway.Select.Basic

/-!
# The text of SELECT statements

The clauses come in the order of the language, and each list within them is joined by commas. The
field list runs through the sources first, each with its own fields and then the extra columns, and
then through the joins. A source or a join may have no fields to write, so what decides about a
comma is whether the list that is being written is still empty.

## Counting

A statement that counts has no order. It replaces the field list by the count; with branches, the
rows of the block are counted from outside.

## Unions

A statement with branches puts the block and every branch in parentheses.
-/

namespace TableGateway

/-- A table in backticks, with its label. -/
def Relation.text (r : Relation) : String :=
  match r.label with
  | some label => Identifier.backticked r.table ++ " " ++ label
  | none => Identifier.backticked r.table

namespace Select

/-- Texts joined by commas. -/
def commaJoined (items : List String) : String := ",".intercalate items

/-- One more item behind a list that is being written, and a comma before it unless nothing has been
written yet. -/
def appendItem (written item : String) : String :=
  if written.isEmpty then item else written ++ "," ++ item

def Connective.keyword : Connective → String
  | .and => "AND"
  | .or => "OR"

def FilterClause.keyword : FilterClause → String
  | .rows => "WHERE"
  | .groups => "HAVING"

def JoinKind.keyword : JoinKind → String
  | .inner => "JOIN"
  | .left => "LEFT JOIN"
  | .right => "RIGHT JOIN"

def UnionKind.keyword : UnionKind → String
  | .all => "UNION ALL"
  | .distinct => "UNION"

/-- The count that takes the place of the field list. -/
def Counting.head? : Counting → Option String
  | .off => none
  | .rows => some "COUNT(*)"
  | .distinct field => some ("COUNT(DISTINCT " ++ field ++ ")")

/-! ## Clauses -/

/-- A further condition, behind its connective. -/
def Filter.continuation (f : Filter) : String := " " ++ f.connective.keyword ++ " " ++ f.condition

/-- A clause of conditions. The connective of the first condition gives way to the keyword. -/
def filterText (clause : FilterClause) : List Filter → String
  | [] => ""
  | first :: rest =>
    " " ++ clause.keyword ++ " " ++ first.condition ++ String.join (rest.map Filter.continuation)

def Join.text (j : Join) : String :=
  " " ++ j.kind.keyword ++ " " ++ j.relation.text ++ " ON " ++ j.condition

def OrderTerm.text (t : OrderTerm) : String :=
  Identifier.text t.expr ++ if t.descending then " DESC" else ""

def Limit.text (l : Limit) : String :=
  match l.skip with
  | some skip => " LIMIT " ++ Decimal.natText skip ++ "," ++ Decimal.natText l.count
  | none => " LIMIT " ++ Decimal.natText l.count

/-- A clause that is left out when it has no items. -/
def listText (keyword : String) (items : List String) : String :=
  if items.isEmpty then "" else " " ++ keyword ++ " " ++ commaJoined items

namespace Block

/-- The fields that a source contributes: its own and then the extra columns. -/
def sourceFields (b : Block) (s : Source) : List String :=
  (s.fields ++ b.columns).map (Identifier.fieldText s.relation.label)

/-- The fields that a join contributes. -/
def joinFields (j : Join) : List String := j.fields.map (Identifier.fieldText j.relation.label)

/-- The items of the field list. -/
def fieldTexts (b : Block) : List String :=
  b.sources.flatMap b.sourceFields ++ b.joins.flatMap joinFields

/-- The items of the table list. -/
def tableTexts (b : Block) : List String := b.sources.map fun s => s.relation.text

/-- The field list. All sources and then all joins write into it, behind what is there. -/
def fieldList (b : Block) : String :=
  let ofSources := b.sources.foldl (fun written s => (b.sourceFields s).foldl appendItem written) ""
  b.joins.foldl (fun written j => (joinFields j).foldl appendItem written) ofSources

/-- The table list. -/
def tableList (b : Block) : String :=
  b.sources.foldl (fun written s => appendItem written s.relation.text) ""

/-- The order, which a count leaves out. -/
def orderText (b : Block) : String :=
  match b.counting with
  | .off => listText "ORDER BY" (b.ordering.map OrderTerm.text)
  | .rows | .distinct _ => ""

/-- Everything that comes after the field list. -/
def body (b : Block) : String :=
  " FROM " ++ b.tableList
    ++ String.join (b.joins.map Join.text)
    ++ filterText .rows b.filters
    ++ listText "GROUP BY" (b.grouping.map Identifier.text)
    ++ filterText .groups b.groupFilters
    ++ b.orderText
    ++ (b.limit.map Limit.text).getD ""

/-- The block with its field list. -/
def rowsText (b : Block) : String :=
  "SELECT " ++ (if b.distinct then "DISTINCT " else "") ++ b.fieldList ++ b.body

/-- The block with a count in place of its field list. -/
def countText (b : Block) (head : String) : String := "SELECT " ++ head ++ b.body

/-- The count of the rows that the block selects, seen from outside. -/
def outerCountText (b : Block) (head : String) : String :=
  "SELECT " ++ head ++ " FROM (SELECT " ++ b.fieldList ++ b.body ++ ") AS u"

end Block

/-! ## Statements -/

mutual

/-- The text of a statement. -/
def toSql : Select → String
  | ⟨b, branches⟩ =>
    match b.counting.head? with
    | some head => if branches.isEmpty then b.countText head else b.outerCountText head
    | none =>
      if branches.isEmpty then b.rowsText
      else "(" ++ b.rowsText ++ ")" ++ branchesText branches

/-- The branches of a union, each behind its keyword. -/
def branchesText : List (UnionKind × Select) → String
  | [] => ""
  | (kind, branch) :: rest =>
    " " ++ kind.keyword ++ " (" ++ toSql branch ++ ")" ++ branchesText rest

end

end Select

end TableGateway
