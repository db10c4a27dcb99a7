import TableGateway.Decimal.FloatText
import TableGateway.Value.Basic

/-!
# Texts of values

A value has two texts. The plain text is for messages: strings stand as they are, lists are in
square brackets. The literal is for statements: strings and date-times are quoted, booleans are
numbers, lists are in parentheses.

Within a quoted string the two quotes and the backslash have a backslash before them, and the
character with code zero is written as a backslash and the digit zero, so that no string can end
its own quotation.
-/

namespace TableGateway.Value

/-- Floating-point numbers in statements and messages have all their places, and no point where
they are whole. -/
def floatLayout : Decimal.FloatLayout where
  tie := .awayFromZero
  positional _ := true
  wholeEnding := ""

/-- The text of a floating-point number, non-finite ones included. -/
def floatText (x : Float) : String :=
  match Binary64.ofFloat? x with
  | some b => floatLayout.text b
  | none => if x.isNaN then "NaN" else if x < 0 then "-inf" else "inf"

/-- The escaped form of a character within quotes. -/
def escapeChar (c : Char) : List Char :=
  if c = '\'' ∨ c = '"' ∨ c = '\\' then ['\\', c]
  else if c = '\x00' then ['\\', '0']
  else [c]

/-- A quoted string. -/
def quoted (s : String) : String :=
  String.ofList ('\'' :: s.toList.flatMap escapeChar ++ ['\''])

mutual

/-- The text of a value in a message. -/
def plainText : Value → String
  | .null => "NULL"
  | .bool b => if b then "true" else "false"
  | .int i => Decimal.intText i.toInt
  | .float x => floatText x
  | .text s => s
  | .dateTime t => t.text
  | .list items => "[" ++ ",".intercalate (plainTexts items) ++ "]"

/-- The plain texts of the items of a list. -/
def plainTexts : List Value → List String
  | [] => []
  | item :: rest => plainText item :: plainTexts rest

end

mutual

/-- The text of a value in a statement. -/
def literal : Value → String
  | .null => "NULL"
  | .bool b => if b then "1" else "0"
  | .int i => Decimal.intText i.toInt
  | .float x => floatText x
  | .text s => quoted s
  | .dateTime t => "'" ++ t.text ++ "'"
  | .list items => "(" ++ ",".intercalate (literals items) ++ ")"

/-- The literals of the items of a list. -/
def literals : List Value → List String
  | [] => []
  | item :: rest => literal item :: literals rest

end

end TableGateway.Value
