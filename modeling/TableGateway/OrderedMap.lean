/-!
# Ordered maps

Maps from names to values in which every name keeps the place where it first appeared. Writing a
name that is present changes its value and leaves its place; a removed name that is written again
goes to the end.

The operations are defined on lists of entries, so that trees which hold such lists inside can
use them too; `OrderedMap` adds the proof that no name occurs twice.

Main statements: `names_put`, `find?_put`, `find?_erase`.
-/

namespace TableGateway

variable {α : Type}

/-! ## Lists of entries -/

namespace Entries

/-- The names of the entries, in order. -/
def names (entries : List (String × α)) : List String := entries.map Prod.fst

/-- Writes `value` under `name`: in place where the name is present, at the end otherwise. -/
def put (name : String) (value : α) : List (String × α) → List (String × α)
  | [] => [(name, value)]
  | entry :: rest =>
    if entry.1 = name then (name, value) :: rest else entry :: put name value rest

/-- Removes `name`; the others keep their order. -/
def erase (name : String) (entries : List (String × α)) : List (String × α) :=
  entries.filter (fun entry => entry.1 ≠ name)

/-- The value of the first entry under `name`. -/
def find? (name : String) : List (String × α) → Option α
  | [] => none
  | entry :: rest => if entry.1 = name then some entry.2 else find? name rest

@[simp] theorem names_nil : names ([] : List (String × α)) = [] := rfl

@[simp] theorem names_cons (entry : String × α) (rest : List (String × α)) :
    names (entry :: rest) = entry.1 :: names rest := rfl

theorem names_append (entries others : List (String × α)) :
    names (entries ++ others) = names entries ++ names others := List.map_append

/-- Writing adds a name only at the end, and only if it is new. -/
theorem names_put (name : String) (value : α) (entries : List (String × α)) :
    names (put name value entries)
      = if name ∈ names entries then names entries else names entries ++ [name] := by
  induction entries with
  | nil => simp [put]
  | cons entry rest ih =>
    by_cases h : entry.1 = name
    · simp [put, h]
    · have hn : ¬ name = entry.1 := fun e => h e.symm
      by_cases hm : name ∈ names rest <;> simp [put, h, hn, hm, ih]

theorem nodup_put {name : String} {value : α} {entries : List (String × α)}
    (h : (names entries).Nodup) : (names (put name value entries)).Nodup := by
  rw [names_put]
  split
  · exact h
  · next hm =>
    rw [List.nodup_append]
    refine ⟨h, by simp, ?_⟩
    intro a ha b hb hab
    simp only [List.mem_singleton] at hb
    exact hm (hb ▸ hab ▸ ha)

theorem names_erase (name : String) (entries : List (String × α)) :
    names (erase name entries) = (names entries).filter (fun other => other ≠ name) := by
  induction entries with
  | nil => rfl
  | cons entry rest ih =>
    by_cases h : entry.1 = name <;> simp_all [erase]

theorem nodup_erase {name : String} {entries : List (String × α)} (h : (names entries).Nodup) :
    (names (erase name entries)).Nodup := by
  rw [names_erase]
  exact h.filter _

/-- What is read back after a write. -/
theorem find?_put (name other : String) (value : α) (entries : List (String × α)) :
    find? other (put name value entries)
      = if other = name then some value else find? other entries := by
  induction entries with
  | nil => simp [put, find?, eq_comm]
  | cons entry rest ih =>
    by_cases hk : entry.1 = name
    · by_cases h : name = other
      · simp [put, find?, hk, h]
      · simp [put, find?, hk, h, Ne.symm h]
    · by_cases h : entry.1 = other
      · have hn : ¬ other = name := fun e => hk (h.trans e)
        simp [put, find?, h, hn]
      · simp [put, find?, hk, h, ih]

/-- What is read back after a removal. -/
theorem find?_erase (name other : String) (entries : List (String × α)) :
    find? other (erase name entries) = if other = name then none else find? other entries := by
  induction entries with
  | nil => simp [erase, find?]
  | cons entry rest ih =>
    have ih' : find? other (rest.filter fun entry => entry.1 ≠ name)
        = if other = name then none else find? other rest := ih
    by_cases hk : entry.1 = name
    · by_cases h : name = other <;> simp_all [erase, find?]
    · by_cases h : entry.1 = other
      · have hn : ¬ other = name := fun e => hk (h.trans e)
        simp_all [erase, find?]
      · simp_all [erase, find?]

/-- A name reads back something exactly when it has an entry. -/
theorem isSome_find? {name : String} {entries : List (String × α)} :
    (find? name entries).isSome ↔ name ∈ names entries := by
  induction entries with
  | nil => simp [find?]
  | cons entry rest ih =>
    by_cases h : entry.1 = name
    · simp [find?, h]
    · simp [find?, h, ih, Ne.symm h]

end Entries

/-! ## Maps -/

/-- A list of entries in which no name occurs twice. -/
structure OrderedMap (α : Type) where
  /-- The entries, in the order in which their names appeared. -/
  entries : List (String × α) := []
  nodup : (Entries.names entries).Nodup := by simp

namespace OrderedMap

/-- The map without entries. -/
def empty : OrderedMap α := {}

/-- Writes `value` under `name`, in place where the name is present. -/
def insert (map : OrderedMap α) (name : String) (value : α) : OrderedMap α :=
  ⟨Entries.put name value map.entries, Entries.nodup_put map.nodup⟩

/-- Removes `name`. -/
def erase (map : OrderedMap α) (name : String) : OrderedMap α :=
  ⟨Entries.erase name map.entries, Entries.nodup_erase map.nodup⟩

/-- The value under `name`. -/
def get? (map : OrderedMap α) (name : String) : Option α := Entries.find? name map.entries

/-- Whether `name` has an entry. -/
def contains (map : OrderedMap α) (name : String) : Bool := (map.get? name).isSome

/-- The names, in order. -/
def names (map : OrderedMap α) : List String := Entries.names map.entries

/-- The values, in the order of their names. -/
def values (map : OrderedMap α) : List α := map.entries.map Prod.snd

/-- Writes the entries one after the other; of two with one name the later value stays, at the
place of the earlier. -/
def ofList (entries : List (String × α)) : OrderedMap α :=
  entries.foldl (fun map entry => map.insert entry.1 entry.2) empty

end OrderedMap

end TableGateway
