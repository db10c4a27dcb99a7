import TableGateway.Identifier.Alias

/-!
# Identifiers in statements

A name stands in backticks. Two forms are raw and stand as they are: the star, and an expression
that opens with a parenthesis. An expression may carry an alias, which is written in backticks too.
-/

namespace TableGateway.Identifier

/-- A name in backticks. -/
def backticked (name : String) : String := "`" ++ name ++ "`"

/-- Whether an expression stands as it is. -/
def isRaw (expr : List Char) : Bool := expr = ['*'] || expr.head? = some '('

theorem isRaw_iff {expr : List Char} :
    isRaw expr = true ↔ expr = ['*'] ∨ expr.head? = some '(' := by
  simp [isRaw]

/-- An expression without an alias, in backticks unless it is raw. -/
def bareText (expr : List Char) : String :=
  if isRaw expr then String.ofList expr else backticked (String.ofList expr)

/-- An expression as it is written in a statement, apart from its alias where it has one. -/
def text (expr : String) : String :=
  match cutAlias expr with
  | some (left, right) => bareText left.toList ++ " AS " ++ backticked right
  | none => bareText expr.toList

/-- A field of a table, with the table's label before it. Expressions in parentheses belong to no
table. -/
def fieldText (label : Option String) (expr : String) : String :=
  match label with
  | some label =>
    if expr.toList.head? = some '(' then text expr else label ++ "." ++ text expr
  | none => text expr

end TableGateway.Identifier
