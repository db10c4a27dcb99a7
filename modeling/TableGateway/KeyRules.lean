import TableGateway.Error
import TableGateway.Json.Reader
import TableGateway.OrderedMap

/-!
# Key rules

Which fields identify a record is found in three steps. Keys that a caller gives win. Otherwise a
table may have its keys listed, one or several, and an empty list means that it has none. All other
tables follow a scheme, a text in which the table's name is put in for `{table}`; without a scheme
they have no key.

Rules can be read from a JSON text: an object with the members `mappings` and `scheme`, or an array
of the two in that order. What is missing keeps its default, and other members are skipped.
-/

namespace TableGateway

/-- The key fields listed for a table. -/
inductive TableKey where
  | single (field : String)
  | composite (fields : List String)
  deriving DecidableEq, Repr

/-- The key fields, in order. -/
def TableKey.fields : TableKey → List String
  | .single field => [field]
  | .composite fields => fields

structure KeyRules where
  mappings : OrderedMap TableKey := .empty
  scheme : Option String := some "\x7btable\x7d_id"

namespace KeyRules

/-- No table is listed; the key of a table is its name followed by `_id`. -/
def standard : KeyRules := {}

/-! ## Changing rules -/

/-- Sets the scheme. -/
def withScheme (rules : KeyRules) (scheme : String) : KeyRules :=
  { rules with scheme := some scheme }

/-- Tables that are not listed have no key. -/
def withoutScheme (rules : KeyRules) : KeyRules := { rules with scheme := none }

/-- Lists the keys of one table. -/
def mapTable (rules : KeyRules) (table : String) (key : TableKey) : KeyRules :=
  { rules with mappings := rules.mappings.insert table key }

/-- Replaces the lists of all tables. -/
def withMappings (rules : KeyRules) (mappings : OrderedMap TableKey) : KeyRules :=
  { rules with mappings }

/-! ## Finding keys -/

/-- A scheme with the name of a table put in. The name itself is not searched. -/
def fillTable (table : List Char) : List Char → List Char
  | '{' :: 't' :: 'a' :: 'b' :: 'l' :: 'e' :: '}' :: rest => table ++ fillTable table rest
  | c :: rest => c :: fillTable table rest
  | [] => []

/-- The key of a table by a scheme. -/
def schemeKey (scheme table : String) : String :=
  String.ofList (fillTable table.toList scheme.toList)

/-- The key fields of a table. -/
def resolve (rules : KeyRules) (table : String) (explicit : List String) : List String :=
  if explicit.isEmpty then
    match rules.mappings.get? table with
    | some key => key.fields
    | none => (rules.scheme.map fun scheme => schemeKey scheme table).toList
  else explicit

/-! ## Listing -/

/-- The listed tables in the order of their names. -/
def sortedMappings (rules : KeyRules) : List (String × TableKey) :=
  rules.mappings.entries.mergeSort fun a b => a.1 ≤ b.1

/-! ## Reading from JSON -/

open Json (Outline Piece string?)

/-- A string. -/
def readString? : Outline → Option String
  | .string pieces => string? pieces
  | _ => none

/-- The keys of a table: a string, or an array of strings. -/
def readTableKey? : Outline → Option TableKey
  | .array items => (items.mapM readString?).map .composite
  | outline => (readString? outline).map .single

/-- The lists of all tables; of two for one table the last counts. -/
def readMappings? : Outline → Option (OrderedMap TableKey)
  | .object members => do
    let entries ← members.mapM fun (name, value) => return (← string? name, ← readTableKey? value)
    return .ofList entries
  | _ => none

/-- A scheme, or null for none. -/
def readScheme? : Outline → Option (Option String)
  | .null => some none
  | outline => (readString? outline).map some

/-- The value of a member that may be missing and must not repeat. -/
def uniqueMember? (name : String) (members : List (String × Outline)) :
    Option (Option Outline) :=
  match members.filter (fun member => member.1 = name) with
  | [] => some none
  | [member] => some (some member.2)
  | _ => none

/-- The rules made of the two parts, a missing one having its default. -/
def ofParts? (mappings scheme : Option Outline) : Option KeyRules := do
  let mappings ← match mappings with
    | some outline => readMappings? outline
    | none => some standard.mappings
  let scheme ← match scheme with
    | some outline => readScheme? outline
    | none => some standard.scheme
  return ⟨mappings, scheme⟩

/-- The rules that an outline describes. -/
def ofOutline? : Outline → Option KeyRules
  | .object members => do
    let members ← members.mapM fun (name, value) => return (← string? name, value)
    ofParts? (← uniqueMember? "mappings" members) (← uniqueMember? "scheme" members)
  | .array [] => ofParts? none none
  | .array [mappings] => ofParts? (some mappings) none
  | .array [mappings, scheme] => ofParts? (some mappings) (some scheme)
  | _ => none

/-- The rules that a JSON text describes. -/
def ofText (text : String) : Except Error KeyRules :=
  match (Outline.ofText? text).bind ofOutline? with
  | some rules => .ok rules
  | none => .error (.config "the text describes no key rules")

end KeyRules

end TableGateway
