import TableGateway.Value.Basic

/-!
# Condition templates

A template is the text of a condition with question marks at the places of its values. A question
mark is a marker if the character before it in the template is no letter, digit or underscore; the
first character of a template is never a marker.

The markers take the values in order. Markers beyond the last value stay question marks, values
beyond the last marker are dropped, and a text that was put in for a value is not searched for
markers again.
-/

namespace TableGateway.Template

/-! ## Markers -/

/-- A character of a template, or a place for a value. -/
inductive Part where
  | char (c : Char)
  | marker
  deriving DecidableEq, Repr

/-- The characters of words. -/
def isWordChar (c : Char) : Bool := c.isAlphanum || c = '_'

/-- Whether a question mark after `before` is a marker. -/
def endsWord : Option Char → Bool
  | some c => !isWordChar c
  | none => false

/-- The parts of a template, given the character before it. -/
def parts (before : Option Char) : List Char → List Part
  | [] => []
  | c :: cs => (if c = '?' ∧ endsWord before then .marker else .char c) :: parts (some c) cs

/-- The number of markers of a template. -/
def markerCount (template : String) : Nat := (parts none template.toList).count .marker

/-! ## Values -/

/-- The text of an item of a bound list. -/
def itemText (quote : Value → String) : Value → String
  | .null => "NULL"
  | v => quote v

/-- The text that is put in for a value. -/
def boundText (quote : Value → String) : Value → String
  | .null => "NULL"
  | .list items => "(" ++ ",".intercalate (items.map (itemText quote)) ++ ")"
  | v => quote v

/-- Puts the values in for the markers. -/
def fill (quote : Value → String) : List Part → List Value → List Char
  | [], _ => []
  | .char c :: rest, values => c :: fill quote rest values
  | .marker :: rest, value :: values => (boundText quote value).toList ++ fill quote rest values
  | .marker :: rest, [] => '?' :: fill quote rest []

/-- A template with the values put in. -/
def expand (quote : Value → String) (template : String) (values : List Value) : String :=
  String.ofList (fill quote (parts none template.toList) values)

end TableGateway.Template
