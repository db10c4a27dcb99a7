import TableGateway.Json.Basic
import TableGateway.Json.Printer
import TableGateway.Value.Basic

/-!
# Values and JSON

Values are written as JSON without any mark of their kind, and there are two ways to read them
back. `ofJson` reads every tree and keeps an object as its text. `decode?` takes the first kind of
value that fits the shape of the tree, in the order in which `Value` lists them, and fails where
none does, which is on objects.

Neither reader gives a date-time back: its text is a string like any other.
-/

namespace TableGateway.Value

/-! ## Writing -/

/-- A floating-point number as a document has it; there are no non-finite ones. -/
def floatToJson (x : Float) : Json := if h : x.isFinite then .number (.real x h) else .null

mutual

/-- The tree of a value. -/
def toJson : Value → Json
  | .null => .null
  | .bool b => .bool b
  | .int i => .number (.integer i.toInt ⟨i.le_toInt, Int.lt_trans i.toInt_lt (by decide)⟩)
  | .float x => floatToJson x
  | .text s => .string s
  | .dateTime t => .string t.isoText
  | .list items => .array (allToJson items)

/-- The trees of the items of a list. -/
def allToJson : List Value → List Json
  | [] => []
  | item :: rest => toJson item :: allToJson rest

end

/-! ## Reading every tree -/

/-- A number as a value: an integer if it is in the signed 64-bit range. -/
def ofNumber : Json.Number → Value
  | .integer n _ => if FitsInt64 n then .int (.ofInt n) else .float (.ofInt n)
  | .real x _ => .float x

mutual

/-- The value of a tree; objects become their compact text. -/
def ofJson : Json → Value
  | .null => .null
  | .bool b => .bool b
  | .number n => ofNumber n
  | .string s => .text s
  | .array items => .list (allOfJson items)
  | .object members => .text (Json.object members).text

/-- The values of the items of an array. -/
def allOfJson : List Json → List Value
  | [] => []
  | item :: rest => ofJson item :: allOfJson rest

end

/-! ## Reading by shape -/

/-- The tree as null. -/
def null? : Json → Option Value
  | .null => some .null
  | _ => none

/-- The tree as a boolean. -/
def bool? : Json → Option Value
  | .bool b => some (.bool b)
  | _ => none

/-- The tree as a signed 64-bit integer. -/
def int? : Json → Option Value
  | .number (.integer n _) => (int64? n).map .int
  | _ => none

/-- The tree as a floating-point number, which any number is. -/
def float? : Json → Option Value
  | .number (.integer n _) => some (.float (.ofInt n))
  | .number (.real x _) => some (.float x)
  | _ => none

/-- The tree as a string. -/
def text? : Json → Option Value
  | .string s => some (.text s)
  | _ => none

/-- The first kind of scalar that fits. A date-time is not tried: its text has been taken for a
string by then. -/
def scalar? (j : Json) : Option Value :=
  null? j <|> bool? j <|> int? j <|> float? j <|> text? j

mutual

/-- The value of the first kind that fits. -/
def decode? : Json → Option Value
  | .array items => (decodeAll? items).map .list
  | j => scalar? j

/-- The values of the items of an array, if all of them have one. -/
def decodeAll? : List Json → Option (List Value)
  | [] => some []
  | item :: rest => do
    let item ← decode? item
    let rest ← decodeAll? rest
    return item :: rest

end

end TableGateway.Value
