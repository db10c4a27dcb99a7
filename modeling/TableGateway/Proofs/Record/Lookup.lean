import TableGateway.OrderedMap

/-!
# Looking up names

In entries without a repeated name, the value that a name reads back is the value it stands with.
Writing entries one after the other makes a map of exactly their names, in the order in which they
first came, and a name reads back the value that was written under it last.

Main statements: `find?_eq_some_iff`, `names_ofList`, `get?_ofList`.
-/

namespace TableGateway

variable {α β : Type}

namespace Entries

theorem mem_names_of_mem {entry : String × α} {entries : List (String × α)}
    (h : entry ∈ entries) : entry.1 ∈ names entries :=
  List.mem_map_of_mem h

theorem mem_of_find? {name : String} {value : α} {entries : List (String × α)}
    (h : find? name entries = some value) : (name, value) ∈ entries := by
  induction entries with
  | nil => contradiction
  | cons entry rest ih =>
    rw [find?] at h
    split at h
    · next hname =>
      rw [← hname, ← Option.some.inj h]
      exact List.mem_cons_self
    · exact List.mem_cons_of_mem _ (ih h)

theorem find?_eq_some_iff {name : String} {value : α} {entries : List (String × α)}
    (hnodup : (names entries).Nodup) :
    find? name entries = some value ↔ (name, value) ∈ entries := by
  refine ⟨mem_of_find?, ?_⟩
  induction entries with
  | nil => exact fun h => absurd h List.not_mem_nil
  | cons entry rest ih =>
    rw [names_cons, List.nodup_cons] at hnodup
    intro h
    rw [find?]
    rcases List.mem_cons.mp h with heq | hrest
    · rw [← heq, if_pos rfl]
    · -- Names do not repeat, so the entry further down is not hidden by the first.
      have hne : ¬ entry.1 = name := fun hname => by
        rw [hname] at hnodup
        exact hnodup.1 (mem_names_of_mem hrest)
      rw [if_neg hne]
      exact ih hnodup.2 hrest

theorem find?_map (f : α → β) (name : String) (entries : List (String × α)) :
    find? name (entries.map fun entry => (entry.1, f entry.2)) = (find? name entries).map f := by
  induction entries with
  | nil => rfl
  | cons entry rest ih =>
    rw [List.map_cons, find?, find?, ih]
    split <;> rfl

/-- Names with something for each of them. -/
theorem names_map_graph (f : String → α) (keys : List String) :
    names (keys.map fun key => (key, f key)) = keys := by
  simp [names, Function.comp_def]

theorem put_of_not_mem {name : String} {value : α} {entries : List (String × α)}
    (h : name ∉ names entries) : put name value entries = entries ++ [(name, value)] := by
  induction entries with
  | nil => rfl
  | cons entry rest ih =>
    rw [names_cons, List.mem_cons, not_or] at h
    rw [put, if_neg (Ne.symm h.1), ih h.2, List.cons_append]

/-- Removing a name undoes what was written under it last. -/
theorem erase_put (name : String) (value : α) (entries : List (String × α)) :
    erase name (put name value entries) = erase name entries := by
  induction entries with
  | nil => simp [put, erase]
  | cons entry rest ih =>
    by_cases h : entry.1 = name
    · simp [put, erase, h]
    · simpa [put, erase, h] using ih

theorem erase_put_of_ne {name other : String} (h : other ≠ name) (value : α)
    (entries : List (String × α)) :
    erase name (put other value entries) = put other value (erase name entries) := by
  induction entries with
  | nil => simp [put, erase, h]
  | cons entry rest ih =>
    by_cases hother : entry.1 = other
    · simp [put, erase, hother, h]
    · by_cases hname : entry.1 = name
      · simpa [put, erase, hname, h.symm] using ih
      · simpa [put, erase, hother, hname] using ih

theorem erase_erase (name : String) (entries : List (String × α)) :
    erase name (erase name entries) = erase name entries := by
  simp [erase, List.filter_filter]

theorem erase_comm (name other : String) (entries : List (String × α)) :
    erase name (erase other entries) = erase other (erase name entries) := by
  simp only [erase, List.filter_filter, Bool.and_comm]

end Entries

namespace OrderedMap

theorem eq_of_entries_eq {first second : OrderedMap α} (h : first.entries = second.entries) :
    first = second := by
  obtain ⟨_, _⟩ := first
  obtain ⟨_, _⟩ := second
  cases h
  rfl

/-- Entries that are written after others add the names that are not there yet. -/
theorem names_foldl_insert (entries : List (String × α)) (map : OrderedMap α) :
    (entries.foldl (fun map entry => map.insert entry.1 entry.2) map).names
      = map.names ++ ((Entries.names entries).removeAll map.names).eraseDups := by
  induction entries generalizing map with
  | nil => simp
  | cons entry rest ih =>
    have hinsert : (map.insert entry.1 entry.2).names
        = if entry.1 ∈ map.names then map.names else map.names ++ [entry.1] :=
      Entries.names_put entry.1 entry.2 map.entries
    rw [List.foldl_cons, ih, hinsert, Entries.names_cons, List.cons_removeAll]
    by_cases hmem : entry.1 ∈ map.names
    · simp [hmem]
    · -- What the new name takes out of the rest goes as a repetition otherwise.
      have hrest : (Entries.names rest).removeAll (map.names ++ [entry.1])
          = ((Entries.names rest).removeAll map.names).filter fun name => !name == entry.1 := by
        rw [List.removeAll, List.removeAll, List.filter_filter]
        exact List.filter_congr fun name _ => by simp [Bool.and_comm, Bool.beq_eq_decide_eq]
      simp [hmem, hrest, List.eraseDups_cons]

/-- The names of a map are those of the entries that were written, each where it came first. -/
theorem names_ofList (entries : List (String × α)) :
    (ofList entries).names = (Entries.names entries).eraseDups := by
  rw [ofList, names_foldl_insert]
  show [] ++ ((Entries.names entries).removeAll []).eraseDups = _
  rw [List.removeAll_nil, List.nil_append]

/-- Of the entries that are written after others under one name, the last counts. -/
theorem get?_foldl_insert (entries : List (String × α)) (map : OrderedMap α) (name : String) :
    (entries.foldl (fun map entry => map.insert entry.1 entry.2) map).get? name
      = ((entries.filter fun entry => entry.1 = name).getLast?.map Prod.snd).or
        (map.get? name) := by
  induction entries generalizing map with
  | nil => rfl
  | cons entry rest ih =>
    have hinsert : (map.insert entry.1 entry.2).get? name
        = if name = entry.1 then some entry.2 else map.get? name :=
      Entries.find?_put entry.1 name entry.2 map.entries
    rw [List.foldl_cons, ih, hinsert, List.filter_cons]
    by_cases h : entry.1 = name
    · -- The first entry counts only if no other has its name.
      rw [if_pos h.symm, if_pos (decide_eq_true h), List.getLast?_cons]
      cases (rest.filter fun entry => entry.1 = name).getLast? <;> rfl
    · rw [if_neg (Ne.symm h), if_neg (by simpa using h)]

/-- A name reads back the value of the last entry that was written under it. -/
theorem get?_ofList (entries : List (String × α)) (name : String) :
    (ofList entries).get? name
      = (entries.filter fun entry => entry.1 = name).getLast?.map Prod.snd := by
  rw [ofList, get?_foldl_insert]
  exact Option.or_none

/-- New names are written one after the other behind those that are there. -/
theorem entries_foldl_insert {entries : List (String × α)} {map : OrderedMap α}
    (h : (map.names ++ Entries.names entries).Nodup) :
    (entries.foldl (fun map entry => map.insert entry.1 entry.2) map).entries
      = map.entries ++ entries := by
  induction entries generalizing map with
  | nil => exact (List.append_nil _).symm
  | cons entry rest ih =>
    rw [Entries.names_cons] at h
    have hnew : entry.1 ∉ map.names := fun hmem =>
      (List.nodup_append.mp h).2.2 _ hmem _ List.mem_cons_self rfl
    have hentries : (map.insert entry.1 entry.2).entries = map.entries ++ [entry] :=
      Entries.put_of_not_mem hnew
    have hnames : (map.insert entry.1 entry.2).names = map.names ++ [entry.1] := by
      rw [names, hentries, Entries.names_append]
      rfl
    rw [List.append_cons, ← hnames] at h
    rw [List.foldl_cons, ih h, hentries, ← List.append_cons]

/-- If no name repeats then the map has the entries as they were written. -/
theorem entries_ofList {entries : List (String × α)} (h : (Entries.names entries).Nodup) :
    (ofList entries).entries = entries :=
  entries_foldl_insert h

end OrderedMap

end TableGateway
