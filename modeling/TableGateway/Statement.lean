import TableGateway.Error
import TableGateway.Identifier
import TableGateway.Record.Flatten

/-!
# Statements

A statement is a text with question marks and the values for them, in order. Names stand in
backticks; values never become part of the text.

Inserting and updating take the columns of a flattened record. Deleting reads the key values at the
top of the record, as they are, and compares with null where one is missing.
-/

namespace TableGateway

structure Statement where
  sql : String
  params : List Value := []

namespace Statement

open Identifier (backticked)

/-- A comparison or assignment with a marker. -/
def binding (column : String) : String := backticked column ++ " = ?"

/-- Assignments, separated by commas. -/
def assignments (columns : List String) : String := ",".intercalate (columns.map binding)

/-- Conditions, all of which have to hold. -/
def conditions (columns : List String) : String := " AND ".intercalate (columns.map binding)

/-! ## Writing records -/

/-- Inserts a record. -/
def insert (table : String) (record : Record) : Statement :=
  let columns := record.flatten
  { sql := "INSERT INTO " ++ backticked table ++ " ("
      ++ ",".intercalate (columns.names.map backticked) ++ ") VALUES ("
      ++ ",".intercalate (columns.names.map fun _ => "?") ++ ")"
    params := columns.values }

theorem sql_insert (table : String) (record : Record) :
    (insert table record).sql = "INSERT INTO " ++ backticked table ++ " ("
      ++ ",".intercalate (record.flatten.names.map backticked) ++ ") VALUES ("
      ++ ",".intercalate (record.flatten.names.map fun _ => "?") ++ ")" := rfl

/-- Updates a record: the columns that are keys select it, all others are set. There has to be at
least one of each. -/
def update (table : String) (record : Record) (keys : List String) : Except Error Statement :=
  let (selecting, setting) := record.flatten.entries.partition fun entry => keys.contains entry.1
  if selecting.isEmpty then .error (.noKey table)
  else if setting.isEmpty then .error (.nothingToSet table)
  else
    .ok
      { sql := "UPDATE " ++ backticked table
          ++ " SET " ++ assignments (setting.map Prod.fst)
          ++ " WHERE " ++ conditions (selecting.map Prod.fst)
        params := setting.map Prod.snd ++ selecting.map Prod.snd }

/-- Deletes the record that has the given record's key values. -/
def delete (table : String) (record : Record) (keys : List String) : Except Error Statement :=
  if keys.isEmpty then .error (.noKey table)
  else
    .ok
      { sql := "DELETE FROM " ++ backticked table ++ " WHERE " ++ conditions keys
        params := keys.map fun key => (record.get? key).getD .null }

/-! ## Single keys -/

/-- The only key of a table. -/
def onlyKey (table : String) : List String → Except Error String
  | [] => .error (.noKey table)
  | [key] => .ok key
  | keys => .error (.splitKey table keys.length)

/-- Deletes the record with this key value. -/
def deleteById (table key : String) (id : Value) : Statement where
  sql := "DELETE FROM " ++ backticked table ++ " WHERE " ++ conditions [key]
  params := [id]

/-- Selects the record with this key value. -/
def findById (table key : String) (id : Value) : Statement where
  sql := "SELECT * FROM " ++ backticked table ++ " WHERE " ++ conditions [key]
  params := [id]

end Statement

/-! ## Saving -/

/-- What saving a record comes to. -/
inductive Saving where
  | insert
  | update (keys : List String)
  deriving DecidableEq, Repr

/-- Whether a key value stands for a record that is not stored yet. -/
def Value.isUnset (v : Value) : Bool := v.isNull || v.isZero

/-- A record is new if there are no keys, or if the value of one is missing, null or zero. -/
def Saving.of (record : Record) (keys : List String) : Saving :=
  if keys.isEmpty || keys.any fun key => (record.get? key).all Value.isUnset then .insert
  else .update keys

end TableGateway
