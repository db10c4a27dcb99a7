import TableGateway.Proofs.Record.AsRow

/-!
# The readings of a record agree

A record is read by name at the top and by its leaves. What stands under a name decides what the
leaves under it are: a value is the only leaf there, and its path is the name; a record has its own
leaves there, with the name before their paths; and under a name that the record does not have there
are none. So a name reads back a value exactly if there is a leaf with this path and this value. No
path is empty, and none comes twice.

All of this is shown for rows, since records of any kind read as rows.

Main statements: `filter_allLeaves`, `nodup_leaves`, `get?_eq_some_iff`, `readings_agree`.
-/

namespace TableGateway

/-- A leaf seen from further up, where its record has the path `path`. -/
def Leaf.below (path : List String) (leaf : Leaf) : Leaf := (path ++ leaf.1, leaf.2)

/-! ## Paths of leaves -/

namespace Field

mutual

/-- The leaves of a field lie at its path or below. -/
theorem prefix_of_mem_leaves : ∀ {field : Field} {path : List String} {leaf : Leaf},
    leaf ∈ field.leaves path → path <+: leaf.1
  | .value v, path, leaf, h => by
    rw [Field.leaves, List.mem_singleton] at h
    obtain rfl := h
    exact List.prefix_refl path
  | .nested fields, path, leaf, h => by
    have hbelow : leaf ∈ allLeaves path fields := h
    obtain ⟨name, hname⟩ := below_of_mem_allLeaves hbelow
    exact (List.prefix_append path [name]).trans hname

/-- The leaves of the fields of a record lie below its path. -/
theorem below_of_mem_allLeaves : ∀ {fields : List (String × Field)} {path : List String}
    {leaf : Leaf}, leaf ∈ allLeaves path fields → ∃ name, path ++ [name] <+: leaf.1
  | [], _, _, h => absurd h List.not_mem_nil
  | (name, field) :: rest, path, leaf, h => by
    rw [allLeaves, List.mem_append] at h
    rcases h with h | h
    · exact ⟨name, prefix_of_mem_leaves h⟩
    · exact below_of_mem_allLeaves h

end

/-- Each leaf of a record belongs to one of its fields. -/
theorem mem_allLeaves {fields : List (String × Field)} {path : List String} {leaf : Leaf} :
    leaf ∈ allLeaves path fields ↔ ∃ entry ∈ fields, leaf ∈ entry.2.leaves (path ++ [entry.1]) := by
  induction fields with
  | nil => simp [allLeaves]
  | cons entry rest ih => simp [allLeaves, ih]

/-- The leaves of a record have longer paths than its own. -/
theorem length_lt_of_mem_allLeaves {fields : List (String × Field)} {path : List String}
    {leaf : Leaf} (h : leaf ∈ allLeaves path fields) : path.length < leaf.1.length := by
  obtain ⟨name, hname⟩ := below_of_mem_allLeaves h
  have hlen : (path ++ [name]).length ≤ leaf.1.length := hname.length_le
  rw [List.length_append, List.length_singleton] at hlen
  omega

/-- A field has a leaf at its own path only if it is a value. -/
theorem mem_leaves_self {field : Field} {path : List String} {v : Value} :
    (path, v) ∈ field.leaves path ↔ field = .value v := by
  cases field with
  | value w => simp [Field.leaves, eq_comm]
  | nested fields =>
    refine ⟨fun h => ?_, fun h => by contradiction⟩
    have hbelow : (path, v) ∈ allLeaves path fields := h
    exact absurd (length_lt_of_mem_allLeaves hbelow) (Nat.lt_irrefl path.length)

mutual

/-- A field further down has the same leaves, seen from further up. -/
theorem leaves_append : ∀ (field : Field) (before path : List String),
    field.leaves (before ++ path) = (field.leaves path).map (Leaf.below before)
  | .value _, _, _ => rfl
  | .nested fields, before, path => allLeaves_append fields before path

theorem allLeaves_append : ∀ (fields : List (String × Field)) (before path : List String),
    allLeaves (before ++ path) fields = (allLeaves path fields).map (Leaf.below before)
  | [], _, _ => rfl
  | (name, field) :: rest, before, path => by
    rw [allLeaves, allLeaves, List.map_append, List.append_assoc, leaves_append,
      allLeaves_append]

end

/-- Below one path, a path tells which name it goes through. -/
theorem eq_of_prefix_of_prefix {path longer : List String} {name other : String}
    (h : path ++ [name] <+: longer) (hother : path ++ [other] <+: longer) : name = other := by
  have hlen : (path ++ [name]).length ≤ (path ++ [other]).length := by simp
  have heq := (List.prefix_of_prefix_length_le h hother hlen).eq_of_length (by simp)
  exact List.singleton_inj.mp (List.append_cancel_left heq)

mutual

/-- If no record in the field repeats a name then no path comes twice. -/
theorem nodup_leaves : ∀ {field : Field}, field.Distinct → ∀ path : List String,
    ((field.leaves path).map Prod.fst).Nodup
  | .value _, _, path => List.pairwise_singleton _ path
  | .nested _, h, path => nodup_allLeaves h.1 h.2 path

theorem nodup_allLeaves : ∀ {fields : List (String × Field)}, (Entries.names fields).Nodup →
    AllDistinct fields → ∀ path : List String, ((allLeaves path fields).map Prod.fst).Nodup
  | [], _, _, _ => List.nodup_nil
  | (name, field) :: rest, hnames, hdistinct, path => by
    rw [Entries.names_cons, List.nodup_cons] at hnames
    rw [allLeaves, List.map_append, List.nodup_append]
    refine ⟨nodup_leaves hdistinct.1 _, nodup_allLeaves hnames.2 hdistinct.2 path, ?_⟩
    -- A path that came in both parts would go through this name and through a later one.
    rintro common hfirst _ hrest rfl
    obtain ⟨leaf, hleaf, hpath⟩ := List.mem_map.mp hfirst
    obtain ⟨leaf', hleaf', hpath'⟩ := List.mem_map.mp hrest
    obtain ⟨entry, hentry, hbelow⟩ := mem_allLeaves.mp hleaf'
    have hname : name = entry.1 := eq_of_prefix_of_prefix
      (hpath ▸ prefix_of_mem_leaves hleaf) (hpath' ▸ prefix_of_mem_leaves hbelow)
    have hmem : entry.1 ∈ Entries.names rest := Entries.mem_names_of_mem hentry
    rw [← hname] at hmem
    exact hnames.1 hmem

end

/-- The leaves of a field at the top have paths that begin with its name. -/
theorem head?_of_mem_leaves {field : Field} {name : String} {leaf : Leaf}
    (h : leaf ∈ field.leaves [name]) : leaf.1.head? = some name := by
  obtain ⟨rest, hrest⟩ := prefix_of_mem_leaves h
  rw [← hrest]
  rfl

/-- The leaves whose paths begin with a name are those of the field of this name. -/
theorem filter_allLeaves (name : String) {fields : List (String × Field)}
    (hnames : (Entries.names fields).Nodup) :
    (allLeaves [] fields).filter (fun leaf => leaf.1.head? = some name)
      = ((Entries.find? name fields).map fun field => field.leaves [name]).getD [] := by
  induction fields with
  | nil => rfl
  | cons entry rest ih =>
    obtain ⟨other, field⟩ := entry
    rw [Entries.names_cons, List.nodup_cons] at hnames
    rw [allLeaves, List.nil_append, List.filter_append, ih hnames.2, Entries.find?]
    by_cases h : other = name
    · -- No other field has the name.
      obtain rfl := h
      have hrest : Entries.find? other rest = none := by
        rw [← Option.not_isSome_iff_eq_none, Entries.isSome_find?]
        exact hnames.1
      have hall : (field.leaves [other]).filter (fun leaf => leaf.1.head? = some other)
          = field.leaves [other] :=
        List.filter_eq_self.mpr fun leaf hleaf => decide_eq_true (head?_of_mem_leaves hleaf)
      rw [hall, hrest, if_pos rfl]
      exact List.append_nil _
    · have hnone : (field.leaves [other]).filter (fun leaf => leaf.1.head? = some name) = [] := by
        refine List.filter_eq_nil_iff.mpr fun leaf hleaf => ?_
        rw [head?_of_mem_leaves hleaf]
        simpa using h
      rw [hnone, if_neg h, List.nil_append]

end Field

namespace Row

theorem get?_eq_some_iff {row : Row} {name : String} {v : Value} :
    row.get? name = some v ↔ row.field? name = some (.value v) := by
  rw [get?]
  cases row.field? name with
  | none => simp
  | some field => cases field <;> simp

end Row

namespace Record

/-- The leaves whose paths begin with a name. -/
def under (record : Record) (name : String) : List Leaf :=
  record.leaves.filter fun leaf => leaf.1.head? = some name

/-- `inner` is the record that stands under a name at the top. -/
inductive Nests : Record → String → Record → Prop where
  | row {outer inner : Row} {name : String}
      (h : outer.field? name = some (.nested inner.fields.entries)) :
      Nests (.row outer) name (.row inner)
  | document {outer inner : Json.Document} {name : String} {members : List (String × Json)}
      (h : Entries.find? name outer.tree.members = some (.object members))
      (hinner : inner.tree = .object members) :
      Nests (.document outer) name (.document inner)

variable {record inner : Record} {name : String}

/-- What stands under a name decides what the leaves under it are. -/
theorem under_eq (record : Record) (name : String) :
    record.under name
      = ((record.toRow.field? name).map fun field => field.leaves [name]).getD [] := by
  rw [under, ← leaves_toRow]
  exact Field.filter_allLeaves name record.toRow.fields.nodup

/-- A record under a name is a record of the row under this name. -/
theorem Nests.field?_eq (h : record.Nests name inner) :
    record.toRow.field? name = some (.nested inner.toRow.fields.entries) := by
  cases h with
  | row h => exact h
  | @document outer inner name members h hinner =>
    show (Row.ofDocument outer).field? name
      = some (.nested (Field.allOfJson inner.tree.members))
    rw [field?_ofDocument, h, hinner]
    rfl

theorem exists_nests {fields : List (String × Field)}
    (h : record.toRow.field? name = some (.nested fields)) : ∃ inner, record.Nests name inner := by
  cases record with
  | row outer =>
    -- What stands in a row keeps names distinct as well.
    have hdistinct : Field.Distinct (.nested fields) :=
      Field.allDistinct_iff.mp outer.distinct _ (Entries.mem_of_find? h)
    exact ⟨.row ⟨⟨fields, hdistinct.1⟩, hdistinct.2⟩, .row h⟩
  | columns columns =>
    have hvalue : (Row.ofColumns columns).field? name = some (.nested fields) := h
    rw [field?_ofColumns] at hvalue
    cases hget : columns.get? name <;> simp [hget] at hvalue
  | document outer =>
    have hmember : (Row.ofDocument outer).field? name = some (.nested fields) := h
    rw [field?_ofDocument, Option.map_eq_some_iff] at hmember
    obtain ⟨j, hj, hnested⟩ := hmember
    obtain ⟨members, rfl, -⟩ := Field.ofJson_eq_nested_iff.mp hnested
    have hdistinct : (Json.object members).Distinct :=
      Json.membersDistinct_iff.mp outer.distinct_members _ (Entries.mem_of_find? hj)
    exact ⟨.document ⟨.object members, hdistinct⟩, .document hj rfl⟩

/-! ## Reading at the top -/

/-- A name reads back a value exactly if there is a leaf at the top with this name and value. -/
theorem get?_eq_some_iff {v : Value} :
    record.get? name = some v ↔ ([name], v) ∈ record.leaves := by
  have hunder : ([name], v) ∈ record.leaves ↔ ([name], v) ∈ record.under name := by
    simp [under]
  rw [← get?_toRow, Row.get?_eq_some_iff, hunder, under_eq]
  cases record.toRow.field? name with
  | none => simp
  | some field => simpa using Field.mem_leaves_self.symm

theorem under_of_get? {v : Value} (h : record.get? name = some v) :
    record.under name = [([name], v)] := by
  rw [← get?_toRow, Row.get?_eq_some_iff] at h
  rw [under_eq, h]
  rfl

theorem under_of_nests (h : record.Nests name inner) :
    record.under name = inner.leaves.map (Leaf.below [name]) := by
  rw [under_eq, h.field?_eq, ← leaves_toRow inner]
  exact Field.allLeaves_append inner.toRow.fields.entries [name] []

theorem get?_of_nests (h : record.Nests name inner) : record.get? name = none := by
  rw [← get?_toRow, Row.get?, h.field?_eq]

/-- The record has a name at the top exactly if a value or a record stands there. -/
theorem has_iff :
    record.has name ↔ (record.get? name).isSome ∨ ∃ inner, record.Nests name inner := by
  rw [← has_toRow, ← get?_toRow]
  show (record.toRow.field? name).isSome ↔ _
  rw [Row.get?]
  cases hfield : record.toRow.field? name with
  | none =>
    refine ⟨fun h => by contradiction, fun h => ?_⟩
    rcases h with h | ⟨inner, h⟩
    · contradiction
    · rw [h.field?_eq] at hfield
      contradiction
  | some field =>
    cases field with
    | value v => simp
    | nested fields => simpa using exists_nests hfield

theorem path_ne_nil {leaf : Leaf} (h : leaf ∈ record.leaves) : leaf.1 ≠ [] := by
  rw [← leaves_toRow] at h
  exact List.ne_nil_of_length_pos (Field.length_lt_of_mem_allLeaves h)

theorem has_of_mem_leaves {leaf : Leaf} (h : leaf ∈ record.leaves)
    (hname : leaf.1.head? = some name) : record.has name := by
  have hunder : leaf ∈ record.under name := List.mem_filter.mpr ⟨h, decide_eq_true hname⟩
  rw [under_eq] at hunder
  rw [← has_toRow]
  show (record.toRow.field? name).isSome
  cases hfield : record.toRow.field? name with
  | none =>
    rw [hfield] at hunder
    contradiction
  | some field => rfl

/-- The three readings of a record agree: `has`, `get?` and `leaves`. -/
structure ReadingsAgree (record : Record) : Prop where
  path_ne_nil : ∀ leaf ∈ record.leaves, leaf.1 ≠ []
  nodup_paths : (record.leaves.map Prod.fst).Nodup
  get?_iff : ∀ name v, record.get? name = some v ↔ ([name], v) ∈ record.leaves
  /-- Under a value there is no other leaf. -/
  under_value : ∀ name v, record.get? name = some v → record.under name = [([name], v)]
  has_iff : ∀ name, record.has name
    ↔ (record.get? name).isSome ∨ ∃ inner, record.Nests name inner
  /-- Under a record are its leaves, and they are further down than a value would be. -/
  under_nested : ∀ name inner, record.Nests name inner →
    record.get? name = none ∧ record.under name = inner.leaves.map (Leaf.below [name])
      ∧ ∀ leaf ∈ record.under name, 1 < leaf.1.length
  has_of_leaf : ∀ leaf ∈ record.leaves, ∀ name, leaf.1.head? = some name → record.has name

/-- The readings of every record agree, and a document that is no object has nothing to read. -/
theorem readings_agree (record : Record) :
    record.ReadingsAgree
      ∧ ∀ document, record = .document document →
        (∀ members, document.tree ≠ .object members) →
          (∀ name, record.has name = false ∧ record.get? name = none) ∧ record.leaves = [] := by
  constructor
  · refine ⟨fun _ => path_ne_nil, ?_, fun _ _ => get?_eq_some_iff, fun _ _ => under_of_get?,
      fun _ => has_iff, fun name inner h => ?_, fun _ h _ => has_of_mem_leaves h⟩
    · rw [← leaves_toRow]
      exact Field.nodup_allLeaves record.toRow.fields.nodup record.toRow.distinct []
    · refine ⟨get?_of_nests h, under_of_nests h, fun leaf hleaf => ?_⟩
      rw [under_of_nests h] at hleaf
      obtain ⟨lower, hlower, rfl⟩ := List.mem_map.mp hleaf
      have hpos := List.length_pos_iff.mpr (path_ne_nil hlower)
      rw [Leaf.below, List.length_append, List.length_singleton]
      omega
  · rintro document rfl hobject
    have hmembers : document.tree.members = [] := by
      cases htree : document.tree with
      | object members => exact absurd htree (hobject members)
      | _ => rfl
    refine ⟨fun name => ⟨?_, ?_⟩, ?_⟩
    · show (Entries.find? name document.tree.members).isSome = false
      rw [hmembers]
      rfl
    · show document.get? name = none
      rw [Json.Document.get?, hmembers]
      rfl
    · show Json.memberLeaves [] document.tree.members = []
      rw [hmembers]
      rfl

/-- A record with a value, a record and an empty record, two of whose paths would make one column,
and a document that is no object. -/
theorem readings_agree_nested :
    let user := Row.empty.set "id" (.int 0)
    let record := Record.row
      (((Row.empty.set "user.id" (.int 7)).setNested "user" user).setNested "rest" .empty)
    let array := Record.document ⟨.array [.object [("user.id", .null)]],
      ⟨⟨by decide, trivial, trivial⟩, trivial⟩⟩
    record.under "user.id" = [(["user.id"], .int 7)]
      ∧ record.under "user" = [(["user", "id"], .int 0)]
      ∧ (record.has "rest" ∧ record.get? "rest" = none ∧ record.under "rest" = [])
      ∧ array.has "user.id" = false ∧ array.leaves = [] := by
  intro user record array
  have h := (readings_agree record).1
  have hrest : record.Nests "rest" (.row .empty) := .row rfl
  have harray := (readings_agree array).2 _ rfl (by intro members; simp)
  refine ⟨h.under_value _ _ rfl, (h.under_nested _ (.row user) (.row rfl)).2.1,
    ⟨(h.has_iff _).mpr (.inr ⟨_, hrest⟩), ?_⟩, (harray.1 _).1, harray.2⟩
  exact ⟨(h.under_nested _ _ hrest).1, (h.under_nested _ _ hrest).2.1⟩

end Record

end TableGateway
