import TableGateway.Driver.Basic

/-!
# A scripted driver

A driver without a database: it gives the answers that its script holds, whatever the statement is.
Several drivers may share a script; they are told apart by their names.
-/

namespace TableGateway

/-- The answers that are given, and the failure that is reported instead if there is one. -/
structure Script where
  rows : List Columns := []
  affected : Nat := 1
  failure : Option String := none

/-- How a scripted driver writes literals. -/
inductive ScriptedQuoting where
  /-- As drivers do by default. -/
  | plain
  /-- The driver's name and the plain text of the value, in angle brackets. -/
  | angle
  deriving DecidableEq, Repr

structure ScriptedDriver where
  name : String
  quoting : ScriptedQuoting := .plain
  deriving DecidableEq, Repr

namespace ScriptedDriver

/-- The scripted answer, unless a failure is scripted. -/
def respond {α : Type} (answer : Script → α) : Reply Script α := fun script =>
  match script.failure with
  | some message => (.error (.driver message), script)
  | none => (.ok (answer script), script)

/-- The literal of a value. -/
def quote (driver : ScriptedDriver) (v : Value) : String :=
  match driver.quoting with
  | .plain => v.literal
  | .angle => "<" ++ driver.name ++ ":" ++ v.plainText ++ ">"

/-- The generated id names the driver and the sequence. The empty sequence has generated none, and
the sequence `!` does not exist. -/
def lastInsertId (driver : ScriptedDriver) (sequence : Option String) : Reply Script (Option String)
  | script =>
    match sequence with
    | some "" => (.ok none, script)
    | some "!" => (.error (.driver "no such sequence"), script)
    | some sequence => (.ok (some (driver.name ++ ":" ++ sequence ++ ":42")), script)
    | none => (.ok (some (driver.name ++ ":default:42")), script)

instance : Driver ScriptedDriver Script where
  execute _ _ := respond Script.affected
  query _ _ := respond Script.rows
  lastInsertId := lastInsertId
  quote := quote

end ScriptedDriver

end TableGateway
