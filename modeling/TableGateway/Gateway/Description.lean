import TableGateway.Gateway.Basic
import TableGateway.Text.Quoted

/-!
# Descriptions

Short descriptions of statements and gateways for people who look into a running program. Tables
with listed keys come in the order of their names.
-/

namespace TableGateway

/-- A record for people: its name and its fields, the dots standing for what is not shown. -/
def recordText (name : String) (fields : List (String × String)) (rest : List String) : String :=
  name ++ " \x7b "
    ++ ", ".intercalate (fields.map (fun field => field.1 ++ ": " ++ field.2) ++ rest) ++ " \x7d"

/-- A statement by its text. -/
def Select.description (s : Select) : String :=
  recordText "Select" [("sql", Text.shown s.toSql)] [".."]

/-- The keys listed for a table. -/
def TableKey.description : TableKey → String
  | .single field => "Single(" ++ Text.shown field ++ ")"
  | .composite fields => "Composite([" ++ ", ".intercalate (fields.map Text.shown) ++ "])"

namespace KeyRules

/-- The tables with listed keys. -/
def mappingsText (rules : KeyRules) : String :=
  "\x7b" ++ ", ".intercalate (rules.sortedMappings.map fun entry =>
    Text.shown entry.1 ++ ": " ++ entry.2.description) ++ "\x7d"

def schemeText (rules : KeyRules) : String :=
  match rules.scheme with
  | some scheme => "Some(" ++ Text.shown scheme ++ ")"
  | none => "None"

def description (rules : KeyRules) : String :=
  recordText "KeyConfig" [("mappings", rules.mappingsText), ("scheme", rules.schemeText)] []

end KeyRules

/-- A gateway by its table and its key rules. -/
def Gateway.description {δ α : Type} (g : Gateway δ α) : String :=
  recordText "Connector" [("table", Text.shown g.table), ("keys", g.keys.description)] [".."]

end TableGateway
