import TableGateway.Log
import TableGateway.Template.Basic
import TableGateway.Value.Conversion

/-!
# Conditions

A condition is a template together with the values for its markers. Values are bound in order, one
by one or several at once.
-/

namespace TableGateway

structure Condition where
  template : String
  values : List Value := []

namespace Condition

variable {α : Type} [ToValue α]

/-- Binds one more value. -/
def bind (condition : Condition) (value : α) : Condition :=
  { condition with values := condition.values ++ [ToValue.toValue value] }

/-- Binds several more values. -/
def bindAll (condition : Condition) (values : List α) : Condition :=
  { condition with values := condition.values ++ values.map ToValue.toValue }

instance : Coe String Condition := ⟨fun template => { template }⟩

/-- The text of a condition, its values quoted by `quote`. -/
def text (quote : Value → String) (condition : Condition) : String :=
  Template.expand quote condition.template condition.values

/-- What expanding a condition puts into the log: nothing if every marker has a value and every
value a marker. -/
def events (condition : Condition) : List Event :=
  let markers := Template.markerCount condition.template
  let values := condition.values.length
  if markers = values then [] else [.markerMismatch condition.template markers values]

end Condition

end TableGateway
