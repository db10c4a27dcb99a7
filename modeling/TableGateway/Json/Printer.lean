import TableGateway.Decimal.FloatText
import TableGateway.Json.Basic

/-!
# JSON text

The compact text of a JSON tree: no blanks, members in order.

In a string the quote, the backslash and the control characters below the space are escaped, by a
letter where JSON has one and by four hexadecimal digits otherwise. All other characters stand as
they are.
-/

namespace TableGateway.Json

/-- Floating-point numbers in documents have all their places from 10⁻⁵ up to 10¹⁶, and a point
there always; beyond, they have an exponent. -/
def floatLayout : Decimal.FloatLayout where
  tie := .toEven
  positional e := -5 ≤ e && e < 16
  wholeEnding := ".0"

/-- The text of a number. -/
def Number.text : Number → String
  | .integer n _ => Decimal.intText n
  | .real x _ =>
    match Binary64.ofFloat? x with
    | some b => floatLayout.text b
    | none => "null"

/-- The lower-case hexadecimal digits of a number below 256. -/
def hexPair (n : Nat) : List Char := [Nat.digitChar (n / 16), Nat.digitChar (n % 16)]

/-- The escaped form of a character within a string. -/
def escapeChar (c : Char) : List Char :=
  if c = '"' ∨ c = '\\' then ['\\', c]
  else if c = '\x08' then ['\\', 'b']
  else if c = '\x0C' then ['\\', 'f']
  else if c = '\n' then ['\\', 'n']
  else if c = '\r' then ['\\', 'r']
  else if c = '\t' then ['\\', 't']
  else if c < ' ' then ['\\', 'u', '0', '0'] ++ hexPair c.toNat
  else [c]

/-- A string in quotes. -/
def quoted (s : String) : String :=
  String.ofList ('"' :: s.toList.flatMap escapeChar ++ ['"'])

mutual

/-- The compact text of a tree. -/
def text : Json → String
  | .null => "null"
  | .bool b => if b then "true" else "false"
  | .number n => n.text
  | .string s => quoted s
  | .array items => "[" ++ ",".intercalate (itemTexts items) ++ "]"
  | .object members => "\x7b" ++ ",".intercalate (memberTexts members) ++ "\x7d"

/-- The texts of the items of an array. -/
def itemTexts : List Json → List String
  | [] => []
  | item :: rest => text item :: itemTexts rest

/-- The texts of the members of an object: the name, a colon and the value. -/
def memberTexts : List (String × Json) → List String
  | [] => []
  | (name, value) :: rest => (quoted name ++ ":" ++ text value) :: memberTexts rest

end

end TableGateway.Json
