import TableGateway.Text.Bytes

/-!
# Log events

What the library reports about its work: a condition whose markers and values do not match in
number, and every statement that is about to be sent.

Statements are reported by their beginning only. `excerpt` cuts a text at a number of bytes, or
before it where that would split a character.
-/

namespace TableGateway

/-- What a statement is sent for. -/
inductive Operation where
  | insert
  | update
  | delete
  | deleteById
  | exec
  | query
  | findOne
  | findAll
  | findById
  | count
  deriving DecidableEq, Repr

/-- The name of an operation in the log. -/
def Operation.name : Operation → String
  | .insert => "insert"
  | .update => "update"
  | .delete => "delete"
  | .deleteById => "delete_by_id"
  | .exec => "exec"
  | .query => "query"
  | .findOne => "find_one"
  | .findAll => "find_all"
  | .findById => "find_by_id"
  | .count => "count"

/-- An event of the log. -/
inductive Event where
  /-- A condition was expanded that has more markers than values, or fewer. -/
  | markerMismatch (template : String) (markers values : Nat)
  /-- A statement is about to be sent. -/
  | statement (operation : Operation) (table : String) (paramCount : Nat) (sql : String)
  deriving DecidableEq, Repr

namespace Event

/-- The importance of an event. -/
def level : Event → String
  | .markerMismatch .. => "TRACE"
  | .statement .. => "DEBUG"

/-- The part of the library that an event comes from. -/
def topic : Event → String
  | .markerMismatch .. => "placeholder"
  | .statement .. => "sql"

/-- The wording of an event. -/
def message : Event → String
  | .markerMismatch .. => "placeholder count does not match bound values"
  | .statement .. => "running statement"

end Event

/-! ## Excerpts -/

/-- The beginning of a text of at most `limit` bytes, if the text can be cut where it ends. -/
def excerpt? (limit : Nat) (text : String) : Option String :=
  if text.utf8ByteSize ≤ limit then some text else Text.upTo? text (Text.floorBoundary text limit)

theorem isSome_excerpt? (limit : Nat) (text : String) : (excerpt? limit text).isSome := by
  unfold excerpt?
  split
  · rfl
  · exact Text.isSome_upTo?_iff.mpr (Text.boundary_floorBoundary text limit)

/-- The longest beginning of a text that has at most `limit` bytes. -/
def excerpt (limit : Nat) (text : String) : String :=
  (excerpt? limit text).get (isSome_excerpt? limit text)

/-- Bytes of a statement that an event carries at most. -/
def loggedBytes : Nat := 200

end TableGateway
