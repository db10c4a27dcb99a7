import Mathlib.Data.Nat.Find
import TableGateway.Proofs.LastWord
import TableGateway.Proofs.Record.Flattening

/-!
# Rows and their edits

A row is built by edits, each of which sets the field of a name or removes it. What the row is in
the end can be read off the edits. A name has the field that the last word on it gave, and none
where that was a removal. The names stand in the order in which they were opened: a name is opened
by the first edit that sets it behind all its removals. So a field that is set again keeps its
place, one that was removed before comes last, and the removal of a name leaves no trace on the
others.

Main statements: `field?_edited_eq_iff`, `remove_edited`, `pair_sublist_names_iff`, `edited_leftBy`.
-/

namespace TableGateway.Row

/-! ## Edits -/

/-- A step in which a row is changed. -/
inductive Edit where
  | set (name : String) (value : Value)
  | setNested (name : String) (inner : Row)
  | remove (name : String)

namespace Edit

/-- The name that an edit is about. -/
def name : Edit → String
  | .set name _ | .setNested name _ | .remove name => name

/-- The field that an edit leaves under its name. -/
def field? : Edit → Option Field
  | .set _ value => some (.value value)
  | .setNested _ inner => some (.nested inner.fields.entries)
  | .remove _ => none

/-- What an edit says about the field of a name. -/
def word? (name : String) (edit : Edit) : Option (Option Field) :=
  if edit.name = name then some edit.field? else none

theorem word?_of_ne {name : String} {edit : Edit} (h : edit.name ≠ name) :
    edit.word? name = none := if_neg h

theorem word?_name (edit : Edit) : edit.word? edit.name = some edit.field? := if_pos rfl

end Edit

/-- The row after an edit. -/
def edit (row : Row) : Edit → Row
  | .set name value => row.set name value
  | .setNested name inner => row.setNested name inner
  | .remove name => row.remove name

/-- The row after several edits. -/
def edited (row : Row) (edits : List Edit) : Row := edits.foldl edit row

/-- The names at the top, in order. -/
def names (row : Row) : List String := row.fields.names

variable {row : Row} {edits : List Edit} {e : Edit} {name : String}

theorem edited_concat (row : Row) (edits : List Edit) (e : Edit) :
    row.edited (edits ++ [e]) = (row.edited edits).edit e := by
  rw [edited, List.foldl_append]
  rfl

/-- An edit writes its field, or removes its name where it has none. -/
theorem entries_edit (row : Row) (e : Edit) :
    (row.edit e).fields.entries
      = match e.field? with
        | some field => Entries.put e.name field row.fields.entries
        | none => Entries.erase e.name row.fields.entries := by
  cases e <;> rfl

theorem names_edit_of_some {field : Field} (h : e.field? = some field) :
    (row.edit e).names = if e.name ∈ row.names then row.names else row.names ++ [e.name] := by
  rw [names, OrderedMap.names, entries_edit, h]
  exact Entries.names_put e.name field row.fields.entries

theorem names_edit_of_none (h : e.field? = none) :
    (row.edit e).names = row.names.filter fun name => name ≠ e.name := by
  rw [names, OrderedMap.names, entries_edit, h]
  exact Entries.names_erase e.name row.fields.entries

/-! ## Fields -/

/-- Each edit leaves under a name what it says about it. -/
theorem field?_setBy (name : String) :
    SetBy edit (fun row => row.field? name) (Edit.word? name) := by
  intro row e
  show Entries.find? name (row.edit e).fields.entries = _
  rw [entries_edit, Edit.word?]
  cases e.field? with
  | some field =>
    simp only [Entries.find?_put, eq_comm (a := name)]
    split <;> rfl
  | none =>
    simp only [Entries.find?_erase, eq_comm (a := name)]
    split <;> rfl

/-- A name has the field that the last word on it gave. -/
theorem field?_edited_eq_iff {answer : Option Field} :
    (empty.edited edits).field? name = answer ↔ LastWord (Edit.word? name) none edits answer :=
  (field?_setBy name).part_foldl_eq_iff

/-! ## Other names -/

theorem eq_of_entries_eq {other : Row} (h : row.fields.entries = other.fields.entries) :
    row = other := by
  obtain ⟨fields, _⟩ := row
  obtain ⟨others, _⟩ := other
  cases OrderedMap.eq_of_entries_eq h
  rfl

theorem remove_edit_name (row : Row) (e : Edit) :
    (row.edit e).remove e.name = row.remove e.name := by
  apply eq_of_entries_eq
  show Entries.erase e.name (row.edit e).fields.entries = Entries.erase e.name row.fields.entries
  rw [entries_edit]
  cases e.field? with
  | some field => exact Entries.erase_put e.name field row.fields.entries
  | none => exact Entries.erase_erase e.name row.fields.entries

theorem remove_edit_of_ne (row : Row) (h : e.name ≠ name) :
    (row.edit e).remove name = (row.remove name).edit e := by
  apply eq_of_entries_eq
  show Entries.erase name (row.edit e).fields.entries = ((row.remove name).edit e).fields.entries
  rw [entries_edit, entries_edit]
  cases e.field? with
  | some field => exact Entries.erase_put_of_ne h field row.fields.entries
  | none => exact Entries.erase_comm name e.name row.fields.entries

/-- Apart from one name, a row is as if the edits of this name had not been made. -/
theorem remove_edited (row : Row) (edits : List Edit) (name : String) :
    (row.edited edits).remove name
      = (row.remove name).edited (edits.filter fun e => e.name ≠ name) := by
  induction edits generalizing row with
  | nil => rfl
  | cons e edits ih =>
    have hrest : (row.edited (e :: edits)).remove name
        = ((row.edit e).remove name).edited (edits.filter fun e => e.name ≠ name) := ih (row.edit e)
    rw [hrest]
    by_cases h : e.name = name
    · obtain rfl := h
      rw [remove_edit_name, List.filter_cons_of_neg (by simp)]
    · rw [remove_edit_of_ne row h, List.filter_cons_of_pos (by simpa using h)]
      rfl

/-- A removal leaves no trace on the other names. -/
theorem remove_edited_removal (row : Row) (before after : List Edit) (name : String) :
    (row.edited (before ++ .remove name :: after)).remove name
      = (row.edited (before ++ after)).remove name := by
  simp [remove_edited, Edit.name]

/-! ## Places -/

/-- What the edit at a place says about a name. -/
def wordAt? (edits : List Edit) (name : String) (i : Nat) : Option (Option Field) :=
  edits[i]?.bind (Edit.word? name)

/-- The edit at a place sets the name, and all removals of the name come before. -/
structure SetForGood (edits : List Edit) (name : String) (i : Nat) : Prop where
  sets : ∃ field, wordAt? edits name i = some (some field)
  removed_before : ∀ k, wordAt? edits name k = some none → k < i

/-- The name is set at the place for the first time behind all its removals. -/
structure OpensAt (edits : List Edit) (name : String) (i : Nat) : Prop where
  setForGood : SetForGood edits name i
  first : ∀ j, SetForGood edits name j → i ≤ j

theorem OpensAt.unique {i j : Nat} (h : OpensAt edits name i) (h' : OpensAt edits name j) :
    i = j :=
  Nat.le_antisymm (h.first j h'.setForGood) (h'.first i h.setForGood)

theorem exists_opensAt (h : ∃ i, SetForGood edits name i) : ∃ i, OpensAt edits name i := by
  classical
  exact ⟨Nat.find h, Nat.find_spec h, fun j hj => Nat.find_min' h hj⟩

theorem wordAt?_concat_of_lt {i : Nat} (h : i < edits.length) :
    wordAt? (edits ++ [e]) name i = wordAt? edits name i := by
  rw [wordAt?, List.getElem?_append_left h, wordAt?]

theorem wordAt?_concat_length : wordAt? (edits ++ [e]) name edits.length = e.word? name := by
  rw [wordAt?, List.getElem?_concat_length, Option.bind_some]

theorem lt_length_of_wordAt? {i : Nat} {answer : Option Field}
    (h : wordAt? edits name i = some answer) : i < edits.length := by
  obtain ⟨e, he, -⟩ := Option.bind_eq_some_iff.mp h
  exact (List.getElem?_eq_some_iff.mp he).1

/-- A further edit says something at its own place only. -/
theorem wordAt?_concat_eq_some_iff {i : Nat} {answer : Option Field} :
    wordAt? (edits ++ [e]) name i = some answer
      ↔ wordAt? edits name i = some answer ∨ i = edits.length ∧ e.word? name = some answer := by
  constructor
  · intro h
    have hlt := lt_length_of_wordAt? h
    rw [List.length_append, List.length_singleton] at hlt
    rcases Nat.lt_or_eq_of_le (Nat.le_of_lt_succ hlt) with hlt | rfl
    · exact .inl (wordAt?_concat_of_lt hlt ▸ h)
    · exact .inr ⟨rfl, wordAt?_concat_length ▸ h⟩
  · rintro (h | ⟨rfl, h⟩)
    · exact (wordAt?_concat_of_lt (lt_length_of_wordAt? h)).trans h
    · exact wordAt?_concat_length.trans h

theorem SetForGood.lt_length {i : Nat} (h : SetForGood edits name i) : i < edits.length := by
  obtain ⟨field, hset⟩ := h.sets
  exact lt_length_of_wordAt? hset

/-- An edit that does not remove the name adds at most its own place. -/
theorem setForGood_concat_iff {i : Nat} (h : e.name = name → e.field? ≠ none) :
    SetForGood (edits ++ [e]) name i
      ↔ SetForGood edits name i ∨ i = edits.length ∧ e.name = name := by
  have hremoved : ∀ k, wordAt? (edits ++ [e]) name k = some none
      ↔ wordAt? edits name k = some none := fun k => by
    rw [wordAt?_concat_eq_some_iff]
    refine or_iff_left fun hlast => ?_
    by_cases hname : e.name = name
    · obtain rfl := hname
      exact h rfl (Option.some.inj (e.word?_name ▸ hlast.2))
    · rw [Edit.word?_of_ne hname] at hlast
      exact nomatch hlast.2
  constructor
  · rintro ⟨⟨field, hset⟩, hbefore⟩
    rcases wordAt?_concat_eq_some_iff.mp hset with hset | ⟨hlast, hset⟩
    · exact .inl ⟨⟨field, hset⟩, fun k hk => hbefore k ((hremoved k).mpr hk)⟩
    · refine .inr ⟨hlast, Decidable.byContradiction fun hname => ?_⟩
      rw [Edit.word?_of_ne hname] at hset
      contradiction
  · rintro (⟨⟨field, hset⟩, hbefore⟩ | ⟨rfl, rfl⟩)
    · exact ⟨⟨field, wordAt?_concat_eq_some_iff.mpr (.inl hset)⟩,
        fun k hk => hbefore k ((hremoved k).mp hk)⟩
    · obtain ⟨field, hfield⟩ := Option.ne_none_iff_exists'.mp (h rfl)
      exact ⟨⟨field, wordAt?_concat_length.trans (hfield ▸ e.word?_name)⟩,
        fun k hk => lt_length_of_wordAt? ((hremoved k).mp hk)⟩

/-- Right behind a removal the name is not set. -/
theorem not_setForGood_concat {i : Nat} (h : e.field? = none) :
    ¬ SetForGood (edits ++ [e]) e.name i := by
  intro hset
  have hlast : edits.length < i :=
    hset.removed_before _ (wordAt?_concat_length.trans (h ▸ e.word?_name))
  have hlt := hset.lt_length
  rw [List.length_append, List.length_singleton] at hlt
  omega

/-- A name that is set already is not opened again. -/
theorem opensAt_of_concat {i : Nat} (hset : ∃ j, SetForGood edits name j)
    (h : e.name = name → e.field? ≠ none) (hopens : OpensAt (edits ++ [e]) name i) :
    OpensAt edits name i := by
  obtain ⟨first, hfirst⟩ := exists_opensAt hset
  have hstays : OpensAt (edits ++ [e]) name first := by
    refine ⟨(setForGood_concat_iff h).mpr (.inl hfirst.setForGood), fun j hj => ?_⟩
    rcases (setForGood_concat_iff h).mp hj with hj | ⟨rfl, -⟩
    · exact hfirst.first j hj
    · exact Nat.le_of_lt hfirst.setForGood.lt_length
  exact hopens.unique hstays ▸ hfirst

/-! ## Names -/

theorem mem_names_edited_iff :
    name ∈ (empty.edited edits).names ↔ ∃ i, SetForGood edits name i := by
  induction edits using List.reverseRecOn with
  | nil => exact ⟨fun h => absurd h List.not_mem_nil, fun ⟨_, h⟩ => nomatch h.lt_length⟩
  | append_singleton edits e ih =>
    rw [edited_concat]
    cases hfield : e.field? with
    | some field =>
      have hkept : e.name = name → e.field? ≠ none := fun _ => by simp [hfield]
      have hmem : name ∈ ((empty.edited edits).edit e).names
          ↔ name ∈ (empty.edited edits).names ∨ e.name = name := by
        rw [names_edit_of_some hfield]
        split
        · next hold => exact ⟨.inl, fun h => h.elim id fun heq => heq ▸ hold⟩
        · simp [eq_comm]
      simp only [hmem, setForGood_concat_iff hkept, exists_or, ih, exists_eq_left]
    | none =>
      rw [names_edit_of_none hfield, List.mem_filter]
      by_cases hname : e.name = name
      · obtain rfl := hname
        simp [not_setForGood_concat hfield]
      · simp [setForGood_concat_iff fun h => absurd h hname, ih, hname, Ne.symm hname]

/-- The names stand in the order in which they were opened. -/
theorem pairwise_names_edited (edits : List Edit) :
    (empty.edited edits).names.Pairwise fun a b =>
      ∀ i j, OpensAt edits a i → OpensAt edits b j → i < j := by
  induction edits using List.reverseRecOn with
  | nil => exact List.Pairwise.nil
  | append_singleton edits e ih =>
    have hopened : ∀ {a i}, a ∈ (empty.edited edits).names → (e.name = a → e.field? ≠ none) →
        OpensAt (edits ++ [e]) a i → OpensAt edits a i := fun ha hkept hi =>
      opensAt_of_concat (mem_names_edited_iff.mp ha) hkept hi
    rw [edited_concat]
    cases hfield : e.field? with
    | some field =>
      have hkept : e.field? ≠ none := by simp [hfield]
      have hold := ih.imp_of_mem fun ha hb h i j hi hj =>
        h i j (hopened ha (fun _ => hkept) hi) (hopened hb (fun _ => hkept) hj)
      rw [names_edit_of_some hfield]
      split
      · exact hold
      · next hnew =>
        refine List.pairwise_append.mpr ⟨hold, List.pairwise_singleton _ _, ?_⟩
        intro a ha b hb i j hi hj
        obtain rfl := List.mem_singleton.mp hb
        -- The new name is opened by the last edit, all others before it.
        rcases (setForGood_concat_iff fun _ => hkept).mp hj.setForGood with hj | ⟨rfl, -⟩
        · exact absurd (mem_names_edited_iff.mpr ⟨j, hj⟩) hnew
        · exact (hopened ha (fun _ => hkept) hi).setForGood.lt_length
    | none =>
      rw [names_edit_of_none hfield]
      refine (ih.filter _).imp_of_mem fun ha hb h i j hi hj => ?_
      obtain ⟨ha, hane⟩ := List.mem_filter.mp ha
      obtain ⟨hb, hbne⟩ := List.mem_filter.mp hb
      refine h i j (hopened ha (fun heq => ?_) hi) (hopened hb (fun heq => ?_) hj)
      · exact absurd heq.symm (of_decide_eq_true hane)
      · exact absurd heq.symm (of_decide_eq_true hbne)

/-- Of two different items of a list one stands before the other. -/
theorem pair_sublist_or_swap {α : Type} {items : List α} {a b : α} (ha : a ∈ items)
    (hb : b ∈ items) (h : a ≠ b) : [a, b].Sublist items ∨ [b, a].Sublist items := by
  obtain ⟨before, after, rfl⟩ := List.append_of_mem ha
  rcases List.mem_append.mp hb with hb | hb
  · have ha' : [a].Sublist (a :: after) := List.singleton_sublist.mpr List.mem_cons_self
    exact .inr ((List.singleton_sublist.mpr hb).append ha')
  · rcases List.mem_cons.mp hb with rfl | hb
    · exact absurd rfl h
    · have hpair : [a, b].Sublist (a :: after) := (List.singleton_sublist.mpr hb).cons_cons a
      exact .inl (hpair.trans (List.sublist_append_right before _))

theorem pair_sublist_names_iff {a b : String} :
    [a, b].Sublist (empty.edited edits).names
      ↔ ∃ i j, OpensAt edits a i ∧ OpensAt edits b j ∧ i < j := by
  constructor
  · intro h
    have hlt := List.pairwise_pair.mp ((pairwise_names_edited edits).sublist h)
    obtain ⟨i, hi⟩ := exists_opensAt (mem_names_edited_iff.mp (h.subset List.mem_cons_self))
    obtain ⟨j, hj⟩ := exists_opensAt (mem_names_edited_iff.mp
      (h.subset (List.mem_cons_of_mem a List.mem_cons_self)))
    exact ⟨i, j, hi, hj, hlt i j hi hj⟩
  · rintro ⟨i, j, hi, hj, hlt⟩
    have ha := mem_names_edited_iff.mpr ⟨i, hi.setForGood⟩
    have hb := mem_names_edited_iff.mpr ⟨j, hj.setForGood⟩
    have hne : a ≠ b := by
      rintro rfl
      exact Nat.ne_of_lt hlt (hi.unique hj)
    refine (pair_sublist_or_swap ha hb hne).resolve_right fun hswap => ?_
    have hgt := List.pairwise_pair.mp ((pairwise_names_edited edits).sublist hswap)
    exact Nat.lt_asymm hlt (hgt j i hj hi)

/-! ## Readings -/

theorem has_iff_mem_names (row : Row) (name : String) : row.has name = true ↔ name ∈ row.names :=
  Entries.isSome_find?

theorem mem_entries_iff (row : Row) (name : String) (field : Field) :
    (name, field) ∈ row.fields.entries ↔ row.field? name = some field :=
  (Entries.find?_eq_some_iff row.fields.nodup).symm

theorem get?_eq_some_iff_field? (row : Row) (name : String) (v : Value) :
    row.get? name = some v ↔ row.field? name = some (.value v) := by
  rw [get?]
  cases row.field? name with
  | none => simp
  | some field => cases field <;> simp

theorem leaves_eq_flatMap (row : Row) :
    row.leaves
      = row.fields.entries.flatMap fun entry => entry.2.ownLeaves.map (Leaf.below [entry.1]) :=
  (Record.leaves_eq_depthFirst (.row row)).trans (Field.depthFirst_eq_flatMap _)

/-- The row is what the edits left. -/
structure LeftBy (edits : List Edit) (row : Row) : Prop where
  names_nodup : row.names.Nodup
  /-- A name is there if its last setting comes behind its last removal. -/
  mem_names_iff : ∀ name, name ∈ row.names ↔ ∃ i, SetForGood edits name i
  /-- It has the field that the last word gave. -/
  field?_eq_iff : ∀ name answer,
    row.field? name = answer ↔ LastWord (Edit.word? name) none edits answer
  /-- The names stand in the order in which they were opened. -/
  pair_sublist_iff : ∀ a b,
    [a, b].Sublist row.names ↔ ∃ i j, OpensAt edits a i ∧ OpensAt edits b j ∧ i < j
  names_remove : ∀ name, (row.remove name).names = row.names.filter fun other => other ≠ name
  /-- On other names a removal leaves no trace. -/
  removal_traceless : ∀ before after name, edits = before ++ .remove name :: after →
    row.remove name = (empty.edited (before ++ after)).remove name
  has_iff : ∀ name, row.has name = true ↔ name ∈ row.names
  get?_eq_some_iff : ∀ name v,
    row.get? name = some v ↔ LastWord (Edit.word? name) none edits (some (.value v))
  names_eq : row.names = row.fields.entries.map Prod.fst
  mem_entries_iff : ∀ name field,
    (name, field) ∈ row.fields.entries ↔ LastWord (Edit.word? name) none edits (some field)
  size_eq : row.size = row.names.length
  /-- The leaves come field by field, below the names of their fields. -/
  leaves_eq : row.leaves
    = row.fields.entries.flatMap fun entry => entry.2.ownLeaves.map (Leaf.below [entry.1])

theorem edited_leftBy (edits : List Edit) : LeftBy edits (empty.edited edits) where
  names_nodup := (empty.edited edits).fields.nodup
  mem_names_iff _ := mem_names_edited_iff
  field?_eq_iff _ _ := field?_edited_eq_iff
  pair_sublist_iff _ _ := pair_sublist_names_iff
  names_remove name := names_edit_of_none (e := .remove name) rfl
  removal_traceless before after name h := h ▸ remove_edited_removal empty before after name
  has_iff := has_iff_mem_names _
  get?_eq_some_iff name v := (get?_eq_some_iff_field? _ name v).trans field?_edited_eq_iff
  names_eq := rfl
  mem_entries_iff name field := (mem_entries_iff _ name field).trans field?_edited_eq_iff
  size_eq := (List.length_map _).symm
  leaves_eq := leaves_eq_flatMap _

/-- A name that is removed and set again goes behind one that is only set again. -/
example (inner : Row) (v w : Value) :
    let edits : List Edit :=
      [.set "a" v, .set "b" v, .remove "a", .setNested "b" inner, .set "a" w]
    (empty.edited edits).names = ["b", "a"] ∧ (empty.edited edits).get? "a" = some w
      ∧ (empty.edited edits).get? "b" = none :=
  ⟨rfl, rfl, rfl⟩

end TableGateway.Row
