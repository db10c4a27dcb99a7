/-!
# Errors

What can go wrong while a statement is put together, sent or answered. Each error is its cause;
the wording is in `Error.message` alone.
-/

namespace TableGateway

inductive Error where
  /-- No key of the table is known, or none is in the row. -/
  | noKey (table : String)
  /-- A single key is needed and the table has several. -/
  | splitKey (table : String) (count : Nat)
  /-- The database refused. -/
  | driver (message : String)
  /-- A column did not hold what was expected of it. -/
  | decode (column message : String)
  /-- The statement would not be well formed. -/
  | validation (message : String)
  /-- A key configuration could not be read. -/
  | config (message : String)
  /-- Any other cause. -/
  | other (message : String)
  deriving DecidableEq, Repr

namespace Error

/-- The wording of an error. -/
def message : Error → String
  | .noKey table => "No key found for updating the row! (table '" ++ table ++ "')"
  | .splitKey table count =>
    "Split keys are not supported for by-id access on '" ++ table ++ "' ("
      ++ toString count ++ " key fields)"
  | .driver message => "Driver error: " ++ message
  | .decode column message => "Decode error on column '" ++ column ++ "': " ++ message
  | .validation message => "Validation error: " ++ message
  | .config message => "Configuration error: " ++ message
  | .other message => message

/-- An update has nothing to set. -/
def nothingToSet (table : String) : Error :=
  .validation ("UPDATE on '" ++ table ++ "' has no columns to SET")

/-- A count was answered by a value that is no integer. -/
def notACount (column value : String) : Error :=
  .decode column ("expected an integer count, got " ++ value)

/-- Whether a key was missing. -/
def isNoKey : Error → Bool
  | .noKey _ => true
  | _ => false

/-- Whether there were too many keys. -/
def isSplitKey : Error → Bool
  | .splitKey .. => true
  | _ => false

end Error

end TableGateway
