import TableGateway.Proofs.Json.TextReading
import TableGateway.Value.Json

/-!
# The two readings of a JSON tree

`Value.ofJson` reads every tree, and keeps an object as its text. `Value.decode?` takes the first
kind of value that fits. They agree on every tree without objects, down to the choice between
integers and floating-point numbers. One object within the arrays of a tree, however deep, and
`decode?` refuses the tree, while `ofJson` has the text of the object at its place and everywhere
else what `decode?` would read there.

Trying date-times as well, in their place behind strings, changes nothing, whichever texts count as
date-times: all texts have become strings by then.

A place in a tree is given by positions in its arrays, one inside the other, and a place in a value
by positions in its lists.

Main statements: `itemAt?_ofJson`, `itemAt?_ofJson_object`, `tryKinds?_eq_decode?`,
`decode?_eq_ofJson`, `decode?_eq_none`, `readers_agree`.
-/

namespace TableGateway

/-! ## Places -/

namespace Json

/-- What stands at a place within the arrays of a tree. -/
def itemAt? (j : Json) : List Nat → Option Json
  | [] => some j
  | n :: path =>
    match j with
    | .array items => items[n]?.bind fun item => item.itemAt? path
    | _ => none

/-- Somewhere within the arrays of the tree stands an object. -/
def HoldsObject (j : Json) : Prop := ∃ path members, j.itemAt? path = some (.object members)

theorem holdsObject_array {items : List Json} :
    (Json.array items).HoldsObject ↔ ∃ item ∈ items, item.HoldsObject := by
  constructor
  · rintro ⟨path, members, hpath⟩
    cases path with
    | nil => exact absurd (Option.some.inj hpath) (by simp)
    | cons n path =>
      obtain ⟨item, hitem, hpath⟩ := Option.bind_eq_some_iff.mp hpath
      exact ⟨item, List.mem_of_getElem? hitem, path, members, hpath⟩
  · rintro ⟨item, hitem, path, members, hpath⟩
    obtain ⟨n, hn⟩ := List.mem_iff_getElem?.mp hitem
    exact ⟨n :: path, members, Option.bind_eq_some_iff.mpr ⟨item, hn, hpath⟩⟩

end Json

namespace Value

/-- What stands at a place within the lists of a value. -/
def itemAt? (v : Value) : List Nat → Option Value
  | [] => some v
  | n :: path =>
    match v with
    | .list items => items[n]?.bind fun item => item.itemAt? path
    | _ => none

theorem allOfJson_eq_map (items : List Json) : allOfJson items = items.map ofJson := by
  induction items with
  | nil => rfl
  | cons item rest ih => rw [allOfJson, ih, List.map_cons]

/-- The value of a tree has its places where the tree has them. -/
theorem itemAt?_ofJson (j : Json) (path : List Nat) :
    (ofJson j).itemAt? path = (j.itemAt? path).map ofJson := by
  induction path generalizing j with
  | nil => rfl
  | cons n path ih =>
    cases j with
    | array items =>
      simp only [ofJson, itemAt?, Json.itemAt?, allOfJson_eq_map, List.getElem?_map,
        Option.bind_map, Option.map_bind]
      exact congrArg _ (funext ih)
    | number number =>
      cases number with
      | integer i hi => simp only [ofJson, ofNumber, Json.itemAt?]; split <;> rfl
      | real x hx => rfl
    | _ => rfl

/-- In the place of an object stands a text that has the outline of the object. -/
theorem itemAt?_ofJson_object {j : Json} {path : List Nat} {members : List (String × Json)}
    (h : j.itemAt? path = some (.object members)) :
    ∃ s, (ofJson j).itemAt? path = some (.text s)
      ∧ Json.Outline.ofText? s = some (Json.object members).outline := by
  refine ⟨(Json.object members).text, ?_, Json.Outline.ofText?_text _⟩
  rw [itemAt?_ofJson, h]
  rfl

/-! ## All kinds in their order -/

/-- The tree as a date-time, by some reading of texts as date-times. -/
def dateTimeOf? (dateTime? : String → Option DateTime) : Json → Option Value
  | .string s => (dateTime? s).map .dateTime
  | _ => none

mutual

/-- The value of the first kind that fits, of all kinds in the order in which `Value` lists them. -/
def tryKinds? (dateTime? : String → Option DateTime) : Json → Option Value
  | .array items =>
    scalar? (.array items) <|> dateTimeOf? dateTime? (.array items)
      <|> (tryKindsAll? dateTime? items).map .list
  | j => scalar? j <|> dateTimeOf? dateTime? j

/-- The values of the items of an array, if all of them have one. -/
def tryKindsAll? (dateTime? : String → Option DateTime) : List Json → Option (List Value)
  | [] => some []
  | item :: rest => do
    let item ← tryKinds? dateTime? item
    let rest ← tryKindsAll? dateTime? rest
    return item :: rest

end

/-- The kinds of numbers are told apart as `ofNumber` tells them apart. -/
theorem scalar?_number (n : Json.Number) : scalar? (.number n) = some (ofNumber n) := by
  cases n with
  | real x hx => rfl
  | integer i hi =>
    show (((int64? i).map Value.int).orElse fun _ => some (.float (.ofInt i))) = _
    by_cases hfits : FitsInt64 i
    · rw [int64?, ofNumber, if_pos hfits, if_pos hfits]
      rfl
    · rw [int64?, ofNumber, if_neg hfits, if_neg hfits]
      rfl

mutual

/-- A date-time is tried in vain: a text has been taken for a string by then, and no other tree is
one. -/
theorem tryKinds?_eq_decode? (dateTime? : String → Option DateTime) :
    ∀ j : Json, tryKinds? dateTime? j = decode? j
  | .null | .bool _ | .string _ | .object _ => rfl
  | .number n => by
    rw [tryKinds?, decode?, scalar?_number]
    · rfl
    all_goals simp
  | .array items => by
    rw [tryKinds?, decode?, tryKindsAll?_eq_decodeAll?]
    rfl

theorem tryKindsAll?_eq_decodeAll? (dateTime? : String → Option DateTime) :
    ∀ items : List Json, tryKindsAll? dateTime? items = decodeAll? items
  | [] => rfl
  | item :: rest => by
    rw [tryKindsAll?, decodeAll?, tryKinds?_eq_decode?, tryKindsAll?_eq_decodeAll?]

end

/-! ## Trees with and without objects -/

mutual

theorem decode?_eq_ofJson : ∀ {j : Json}, ¬ j.HoldsObject → decode? j = some (ofJson j)
  | .null, _ | .bool _, _ | .string _, _ => rfl
  | .number n, _ => scalar?_number n
  | .array items, h => by
    have hitems : ∀ item ∈ items, ¬ item.HoldsObject := fun item hitem hobject =>
      h (Json.holdsObject_array.mpr ⟨item, hitem, hobject⟩)
    rw [decode?, decodeAll?_eq_allOfJson hitems]
    rfl
  | .object members, h => absurd ⟨[], members, rfl⟩ h

theorem decodeAll?_eq_allOfJson : ∀ {items : List Json}, (∀ item ∈ items, ¬ item.HoldsObject) →
    decodeAll? items = some (allOfJson items)
  | [], _ => rfl
  | item :: rest, h => by
    rw [decodeAll?, decode?_eq_ofJson (h item List.mem_cons_self),
      decodeAll?_eq_allOfJson fun other hother => h other (List.mem_cons_of_mem _ hother)]
    rfl

end

mutual

theorem decode?_eq_none : ∀ {j : Json}, j.HoldsObject → decode? j = none
  | .object _, _ => rfl
  | .array items, h => by
    rw [decode?, decodeAll?_eq_none (Json.holdsObject_array.mp h)]
    rfl
  | .null, ⟨path, _, h⟩ | .bool _, ⟨path, _, h⟩ | .string _, ⟨path, _, h⟩
  | .number _, ⟨path, _, h⟩ => by cases path <;> simp [Json.itemAt?] at h

theorem decodeAll?_eq_none : ∀ {items : List Json}, (∃ item ∈ items, item.HoldsObject) →
    decodeAll? items = none
  | [], h => by simp at h
  | item :: rest, h => by
    obtain ⟨other, hother, hobject⟩ := h
    rw [decodeAll?]
    rcases List.mem_cons.mp hother with heq | hrest
    · have hitem : item.HoldsObject := heq ▸ hobject
      rw [decode?_eq_none hitem]
      rfl
    · rw [decodeAll?_eq_none ⟨other, hrest, hobject⟩]
      cases decode? item <;> rfl

end

/-! ## What is read at a place -/

theorem ofJson_eq_int_iff {j : Json} {i : Int64} :
    ofJson j = .int i ↔ ∃ h, j = .number (.integer i.toInt h) := by
  constructor
  · intro h
    cases j with
    | number n =>
      cases n with
      | integer n hn =>
        simp only [ofJson, ofNumber] at h
        split at h
        · next hfits =>
          obtain rfl : Int64.ofInt n = i := Value.int.inj h
          rw [toInt_ofInt hfits]
          exact ⟨hn, rfl⟩
        · contradiction
      | real x hx => contradiction
    | _ => contradiction
  · rintro ⟨h, rfl⟩
    simp only [ofJson, ofNumber, if_pos (fitsInt64_toInt i), Int64.ofInt_toInt]

theorem ofJson_ne_dateTime (j : Json) (t : DateTime) : ofJson j ≠ .dateTime t := by
  intro h
  cases j with
  | number n =>
    cases n with
    | integer n hn =>
      simp only [ofJson, ofNumber] at h
      split at h <;> contradiction
    | real x hx => contradiction
  | _ => contradiction

/-- The two readings of a tree give the same unless it holds an object; then one fails, and the
other has the texts of the objects in their places. -/
structure ReadersAgree (j : Json) : Prop where
  decoded : ¬ j.HoldsObject → decode? j = some (ofJson j)
  refused : j.HoldsObject → decode? j = none
  object : ∀ path members, j.itemAt? path = some (.object members) →
    (ofJson j).itemAt? path = some (.text (Json.object members).text)
  /-- What holds no object is read as it would be read by itself, wherever it stands. -/
  elsewhere : ∀ path part, j.itemAt? path = some part → ¬ part.HoldsObject →
    (ofJson j).itemAt? path = decode? part
  array : ∀ path items, j.itemAt? path = some (.array items) →
    ∃ values, (ofJson j).itemAt? path = some (.list values) ∧ values.length = items.length
  /-- The value has no places beyond those of the tree. -/
  places : ∀ path, ((ofJson j).itemAt? path).isSome = (j.itemAt? path).isSome
  /-- Integers come from the integers of the signed 64-bit range and from nothing else. -/
  int_iff : ∀ path i, (ofJson j).itemAt? path = some (.int i)
    ↔ ∃ h, j.itemAt? path = some (.number (.integer i.toInt h))
  not_dateTime : ∀ path t, (ofJson j).itemAt? path ≠ some (.dateTime t)
  decoded_not_dateTime : ∀ v, decode? j = some v → ∀ path t, v.itemAt? path ≠ some (.dateTime t)
  /-- All kinds are tried in their order, date-times too, whatever a date-time looks like. -/
  inOrder : ∀ dateTime?, tryKinds? dateTime? j = decode? j

theorem itemAt?_ofJson_ne_dateTime (j : Json) (path : List Nat) (t : DateTime) :
    (ofJson j).itemAt? path ≠ some (.dateTime t) := by
  intro h
  rw [itemAt?_ofJson] at h
  obtain ⟨part, -, hpart⟩ := Option.map_eq_some_iff.mp h
  exact ofJson_ne_dateTime part t hpart

theorem readers_agree (j : Json) : ReadersAgree j where
  decoded := decode?_eq_ofJson
  refused := decode?_eq_none
  object path members hpath := by
    rw [itemAt?_ofJson, hpath]
    rfl
  elsewhere path part hpath hpart := by
    rw [itemAt?_ofJson, hpath, decode?_eq_ofJson hpart]
    rfl
  array path items hpath := by
    refine ⟨allOfJson items, ?_, ?_⟩
    · rw [itemAt?_ofJson, hpath]
      rfl
    · rw [allOfJson_eq_map, List.length_map]
  places path := by rw [itemAt?_ofJson, Option.isSome_map]
  int_iff path i := by
    rw [itemAt?_ofJson, Option.map_eq_some_iff]
    simp only [ofJson_eq_int_iff]
    constructor
    · rintro ⟨part, hpart, h, rfl⟩
      exact ⟨h, hpart⟩
    · rintro ⟨h, hpart⟩
      exact ⟨_, hpart, h, rfl⟩
  not_dateTime := itemAt?_ofJson_ne_dateTime j
  decoded_not_dateTime v hv := by
    by_cases hobject : j.HoldsObject
    · rw [decode?_eq_none hobject] at hv
      contradiction
    · rw [decode?_eq_ofJson hobject] at hv
      rw [← Option.some.inj hv]
      exact itemAt?_ofJson_ne_dateTime j
  inOrder dateTime? := tryKinds?_eq_decode? dateTime? j

/-- The least integer that is too great, a whole floating-point number, a text that looks like a
date-time; and what becomes of them beside an object. -/
example :
    let few : Json := .array [.number (.integer 0x8000000000000000 (by decide)),
      .number (.real 1.0 (by decide)), .string "2020-02-14T23:32:18"]
    decode? few
        = some (.list
          [.float (.ofInt 0x8000000000000000), .float 1.0, .text "2020-02-14T23:32:18"])
      ∧ decode? (.array [few, .array [.object []]]) = none :=
  ⟨rfl, rfl⟩

end Value

end TableGateway
