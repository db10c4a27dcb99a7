import TableGateway.Calendar
import TableGateway.Decimal.Binary64
import TableGateway.Int64Range
import TableGateway.Text.Blank

/-!
# Values

The values that conditions bind, statements carry as parameters and databases return: scalars, and
lists of values for conditions such as `IN`.
-/

namespace TableGateway

inductive Value where
  | null
  | bool (b : Bool)
  | int (i : Int64)
  | float (x : Float)
  | text (s : String)
  | dateTime (t : DateTime)
  | list (items : List Value)
  deriving Inhabited

namespace Value

/-- Whether this is the null value. -/
def isNull : Value → Bool
  | .null => true
  | _ => false

/-- Whether this is the number zero; either zero of the floating-point numbers counts. -/
def isZero : Value → Bool
  | .int i => i == 0
  | .float x => x == 0.0
  | _ => false

/-- The integer that a scalar stands for. Whole floating-point numbers beyond the 64-bit range
stand for its nearest end, booleans for 0 and 1, and texts for the number that they spell out,
blanks around it allowed. -/
def toInt64? : Value → Option Int64
  | .int i => some i
  | .float x => ((Binary64.ofFloat? x).bind Binary64.toInt?).map clampInt64
  | .bool b => some (if b then 1 else 0)
  | .text s => (Decimal.readInt? (Text.trimBlank s.toList)).bind int64?
  | .null | .dateTime _ | .list _ => none

/-- A date and time becomes its text, any other value stays. Date and times inside a list are left
as they are. -/
def normalized : Value → Value
  | .dateTime t => .text t.text
  | v => v

/-- Normalizing a second time changes nothing. -/
@[simp] theorem normalized_normalized (v : Value) : v.normalized.normalized = v.normalized := by
  cases v <;> rfl

end Value

end TableGateway
