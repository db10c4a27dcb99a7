import TableGateway.Json.Token

/-!
# Outlines of JSON texts

An outline is the tree of a JSON text in which numbers and strings are still as they are written
and members still repeat. Every text of the grammar has one, however deep it is, so a reader that
skips part of a document can do so without deciding whether that part has a value.

It is read in one pass over the tokens, which keeps the open brackets on a stack.
-/

namespace TableGateway.Json

inductive Outline where
  | null
  | bool (b : Bool)
  | number (n : Numeral)
  | string (pieces : List Piece)
  | array (items : List Outline)
  | object (members : List (List Piece × Outline))

namespace Outline

/-- An open bracket with what has been read inside it, the last first. -/
inductive Frame where
  | array (before : List Outline)
  /-- The member whose value is being read has the name `name`. -/
  | object (before : List (List Piece × Outline)) (name : List Piece)

/-- What may come next, inside the open brackets. -/
inductive State where
  /-- A value. -/
  | value (stack : List Frame)
  /-- The first item of an array, or the end of the array. -/
  | firstItem (stack : List Frame)
  /-- The first member of an object, or the end of the object. -/
  | firstMember (stack : List Frame)
  /-- A member after a comma. -/
  | member (before : List (List Piece × Outline)) (stack : List Frame)
  /-- The colon after a member's name. -/
  | colon (before : List (List Piece × Outline)) (name : List Piece) (stack : List Frame)
  /-- A comma or the end of the innermost bracket; the end of the text if none is open. -/
  | after (done : Outline) (stack : List Frame)

/-- Starts a value. -/
def State.start? (stack : List Frame) : Token → Option State
  | .openArray => some (.firstItem stack)
  | .openObject => some (.firstMember stack)
  | .null => some (.after .null stack)
  | .bool b => some (.after (.bool b) stack)
  | .number n => some (.after (.number n) stack)
  | .string pieces => some (.after (.string pieces) stack)
  | .closeArray | .closeObject | .comma | .colon => none

/-- Takes one token. -/
def State.step? : State → Token → Option State
  | .value stack, token => start? stack token
  | .firstItem stack, .closeArray => some (.after (.array []) stack)
  | .firstItem stack, token => start? (.array [] :: stack) token
  | .firstMember stack, .closeObject => some (.after (.object []) stack)
  | .firstMember stack, .string name => some (.colon [] name stack)
  | .member before stack, .string name => some (.colon before name stack)
  | .colon before name stack, .colon => some (.value (.object before name :: stack))
  | .after done (.array before :: stack), .comma => some (.value (.array (done :: before) :: stack))
  | .after done (.array before :: stack), .closeArray =>
    some (.after (.array (done :: before).reverse) stack)
  | .after done (.object before name :: stack), .comma =>
    some (.member ((name, done) :: before) stack)
  | .after done (.object before name :: stack), .closeObject =>
    some (.after (.object ((name, done) :: before).reverse) stack)
  | _, _ => none

/-- The outline of a sequence of tokens. -/
def ofTokens? (tokens : List Token) : Option Outline :=
  match tokens.foldlM State.step? (.value []) with
  | some (.after done []) => some done
  | _ => none

/-- The outline of a text, if the text is in the grammar. -/
def ofText? (text : String) : Option Outline := (tokens? text.toList).bind ofTokens?

end Outline

end TableGateway.Json
