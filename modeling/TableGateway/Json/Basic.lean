import TableGateway.OrderedMap

/-!
# JSON documents

The tree of a JSON text. Object members keep their order, and in a `Document` no object has two
members of one name, at any depth.

Numbers come in two kinds, which a text tells apart: integers of the signed or the unsigned 64-bit
range, and finite floating-point numbers for everything else.
-/

namespace TableGateway

/-- A number of a JSON document. -/
inductive Json.Number where
  | integer (n : Int) (inRange : -0x8000000000000000 ≤ n ∧ n < 0x10000000000000000)
  | real (x : Float) (finite : x.isFinite)

inductive Json where
  | null
  | bool (b : Bool)
  | number (n : Json.Number)
  | string (s : String)
  | array (items : List Json)
  | object (members : List (String × Json))

namespace Json

mutual

/-- No object in the tree has two members of one name. -/
def Distinct : Json → Prop
  | .null | .bool _ | .number _ | .string _ => True
  | .array items => AllDistinct items
  | .object members => (Entries.names members).Nodup ∧ MembersDistinct members

/-- `Distinct` for all items of an array. -/
def AllDistinct : List Json → Prop
  | [] => True
  | item :: rest => Distinct item ∧ AllDistinct rest

/-- `Distinct` for the values of all members of an object. -/
def MembersDistinct : List (String × Json) → Prop
  | [] => True
  | (_, value) :: rest => Distinct value ∧ MembersDistinct rest

end

theorem membersDistinct_iff {members : List (String × Json)} :
    MembersDistinct members ↔ ∀ member ∈ members, member.2.Distinct := by
  induction members with
  | nil => simp [MembersDistinct]
  | cons member rest ih => simp [MembersDistinct, ih]

/-- Merging members keeps the first place and the last value of a name, so it keeps `Distinct`. -/
theorem MembersDistinct.put {name : String} {value : Json} {members : List (String × Json)}
    (h : MembersDistinct members) (hv : value.Distinct) :
    MembersDistinct (Entries.put name value members) := by
  induction members with
  | nil => exact ⟨hv, trivial⟩
  | cons member rest ih =>
    obtain ⟨k, w⟩ := member
    obtain ⟨hw, hr⟩ := h
    unfold Entries.put
    split
    · exact ⟨hv, hr⟩
    · exact ⟨hw, ih hr⟩

/-- A JSON tree in which member names do not repeat. -/
structure Document where
  tree : Json
  distinct : tree.Distinct

end Json

end TableGateway
