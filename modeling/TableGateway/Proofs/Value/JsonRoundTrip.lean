import TableGateway.Proofs.Calendar.Reading
import TableGateway.Proofs.Value.JsonReading

/-!
# Values through JSON and back

A value is written without a mark of its kind, so what comes back depends on the shape of the tree
alone. Date-times come back as their ISO texts, from which a reader of such texts gets them again,
and infinities and the not-a-number come back as null. Everything else comes back as it was,
whatever it looks like: whole floating-point numbers are not taken for integers, texts of numbers
and date-times stay texts, and lists keep all of their items. The trees of values hold no objects,
so both readings give this back.

Main statements: `ofJson_toJson`, `not_holdsObject_toJson`, `portable_eq_self_iff`,
`json_readsBack`.
-/

namespace TableGateway.Value

mutual

/-- A value as documents have it: date-times are texts, and numbers are finite. -/
def portable : Value → Value
  | .null => .null
  | .bool b => .bool b
  | .int i => .int i
  | .float x => if x.isFinite then .float x else .null
  | .text s => .text s
  | .dateTime t => .text t.isoText
  | .list items => .list (allPortable items)

/-- The items of a list, as documents have them. -/
def allPortable : List Value → List Value
  | [] => []
  | item :: rest => portable item :: allPortable rest

end

theorem allToJson_eq_map (items : List Value) : allToJson items = items.map toJson := by
  induction items with
  | nil => rfl
  | cons item rest ih => rw [allToJson, ih, List.map_cons]

/-! ## Writing and reading -/

theorem ofJson_floatToJson (x : Float) : ofJson (floatToJson x) = portable (.float x) := by
  unfold floatToJson
  rw [portable]
  by_cases hfinite : x.isFinite
  · rw [dif_pos hfinite, if_pos hfinite]
    rfl
  · rw [dif_neg hfinite, if_neg hfinite]
    rfl

mutual

theorem ofJson_toJson : ∀ v : Value, ofJson v.toJson = v.portable
  | .null | .bool _ | .text _ | .dateTime _ => rfl
  | .int i => by
    rw [toJson, ofJson, ofNumber, if_pos (fitsInt64_toInt i), Int64.ofInt_toInt, portable]
  | .float x => ofJson_floatToJson x
  | .list items => by rw [toJson, ofJson, allOfJson_allToJson, portable]

theorem allOfJson_allToJson : ∀ items : List Value, allOfJson (allToJson items) = allPortable items
  | [] => rfl
  | item :: rest => by
    rw [allToJson, allOfJson, ofJson_toJson, allOfJson_allToJson, allPortable]

end

/-! ## Places -/

/-- The tree of a value has its places where the value has them. -/
theorem itemAt?_toJson (v : Value) (path : List Nat) :
    v.toJson.itemAt? path = (v.itemAt? path).map toJson := by
  induction path generalizing v with
  | nil => rfl
  | cons n path ih =>
    cases v with
    | list items =>
      simp only [toJson, itemAt?, Json.itemAt?, allToJson_eq_map, List.getElem?_map,
        Option.bind_map, Option.map_bind]
      exact congrArg _ (funext ih)
    | float x =>
      rw [toJson, floatToJson]
      split <;> rfl
    | _ => rfl

theorem itemAt?_portable (v : Value) (path : List Nat) :
    v.portable.itemAt? path = (v.itemAt? path).map portable := by
  rw [← ofJson_toJson, itemAt?_ofJson, itemAt?_toJson, Option.map_map]
  exact congrFun (congrArg _ (funext ofJson_toJson)) _

theorem toJson_ne_object (v : Value) (members : List (String × Json)) :
    v.toJson ≠ .object members := by
  cases v with
  | float x =>
    rw [toJson, floatToJson]
    split <;> simp
  | _ => simp [toJson]

theorem not_holdsObject_toJson (v : Value) : ¬ v.toJson.HoldsObject := by
  rintro ⟨path, members, hpath⟩
  rw [itemAt?_toJson] at hpath
  obtain ⟨part, -, hpart⟩ := Option.map_eq_some_iff.mp hpath
  exact toJson_ne_object part members hpart

/-! ## What comes back unchanged -/

/-- Nowhere in the value stands a date-time, or a number that is not finite. -/
structure Documentable (v : Value) : Prop where
  not_dateTime : ∀ path t, v.itemAt? path ≠ some (.dateTime t)
  finite : ∀ path x, v.itemAt? path = some (.float x) → x.isFinite

theorem Documentable.item {items : List Value} (h : (Value.list items).Documentable) {item : Value}
    (hitem : item ∈ items) : item.Documentable := by
  obtain ⟨n, hn⟩ := List.mem_iff_getElem?.mp hitem
  have hplace : ∀ path, (Value.list items).itemAt? (n :: path) = item.itemAt? path := fun path => by
    rw [itemAt?, hn, Option.bind_some]
  exact ⟨fun path t => hplace path ▸ h.not_dateTime (n :: path) t,
    fun path x hx => h.finite (n :: path) x (by rw [hplace, hx])⟩

mutual

theorem Documentable.portable_eq : ∀ {v : Value}, v.Documentable → v.portable = v
  | .null, _ | .bool _, _ | .int _, _ | .text _, _ => rfl
  | .float x, h => by rw [portable, if_pos (h.finite [] x rfl)]
  | .dateTime t, h => absurd rfl (h.not_dateTime [] t)
  | .list items, h => by rw [portable, allPortable_eq fun _ hitem => h.item hitem]

theorem allPortable_eq : ∀ {items : List Value}, (∀ item ∈ items, item.Documentable) →
    allPortable items = items
  | [], _ => rfl
  | item :: rest, h => by
    rw [allPortable, (h item List.mem_cons_self).portable_eq,
      allPortable_eq fun other hother => h other (List.mem_cons_of_mem _ hother)]

end

theorem portable_eq_self_iff {v : Value} : v.portable = v ↔ v.Documentable := by
  refine ⟨fun h => ?_, Documentable.portable_eq⟩
  -- What stands at a place is then unchanged as well.
  have hplace : ∀ {path part}, v.itemAt? path = some part → part.portable = part := by
    intro path part hpart
    have hsame := itemAt?_portable v path
    rw [h, hpart] at hsame
    exact (Option.some.inj hsame).symm
  refine ⟨fun path t hpath => ?_, fun path x hpath => ?_⟩
  · have hpart := hplace hpath
    rw [portable] at hpart
    contradiction
  · have hpart := hplace hpath
    rw [portable] at hpart
    split at hpart
    · assumption
    · contradiction

/-- From its tree a value is read back as documents have it, in either way. -/
structure ReadsBack (v : Value) : Prop where
  read : ofJson v.toJson = v.portable
  decoded : decode? v.toJson = some v.portable
  /-- All kinds are tried in their order, date-times too, whatever a date-time looks like. -/
  inOrder : ∀ dateTime?, tryKinds? dateTime? v.toJson = some v.portable
  /-- Every item of every list keeps its place, and there are no others. -/
  places : ∀ path, v.portable.itemAt? path = (v.itemAt? path).map portable
  /-- In the place of a date-time stands the one text that is read as the date-time. -/
  dateTimes : ∀ path t, v.itemAt? path = some (.dateTime t) →
    ∃ s, v.toJson.itemAt? path = some (.string s) ∧ v.portable.itemAt? path = some (.text s)
      ∧ ∀ other, DateTime.ofIso? other = some t.written ↔ other = s
  unchanged_iff : v.portable = v ↔ v.Documentable

theorem json_readsBack (v : Value) : v.ReadsBack := by
  have hdecoded : decode? v.toJson = some v.portable := by
    rw [decode?_eq_ofJson v.not_holdsObject_toJson, ofJson_toJson]
  exact {
    read := ofJson_toJson v
    decoded := hdecoded
    inOrder := fun dateTime? => by rw [tryKinds?_eq_decode?, hdecoded]
    places := itemAt?_portable v
    dateTimes := fun path t hpath => by
      refine ⟨t.isoText, ?_, ?_, fun _ => DateTime.ofIso?_eq_some_written_iff⟩
      · rw [itemAt?_toJson, hpath]
        rfl
      · rw [itemAt?_portable, hpath]
        rfl
    unchanged_iff := portable_eq_self_iff }

end TableGateway.Value
