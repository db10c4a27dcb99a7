import Mathlib.Data.List.Forall2
import TableGateway.Proofs.Template.Position
import TableGateway.Template.Condition

/-!
# The markers of a template and their values

The markers of a template are counted from left to right, and the values are put in by number: where
a marker and a value have the same number, the value's text stands instead of the marker. All other
characters stay, markers beyond the last value among them. What makes a marker is in the template
alone, so the number of markers does not depend on the values either; if it is not the number of
values then this is reported, once.

What is said here does not follow a run: a marker is a position, and the positions have an order.

Main statements: `getElem?_markers`, `length_markers`, `text_by_number`.
-/

namespace TableGateway

namespace Template

/-! ## Markers as positions -/

/-- The characters from which words are made. -/
def InWord (c : Char) : Prop :=
  ('A' ≤ c ∧ c ≤ 'Z') ∨ ('a' ≤ c ∧ c ≤ 'z') ∨ ('0' ≤ c ∧ c ≤ '9') ∨ c = '_'

instance (c : Char) : Decidable (InWord c) := inferInstanceAs (Decidable (_ ∨ _))

/-- A marker is a question mark after a character that is in no word. -/
def Marks (template : List Char) (i : Nat) : Prop :=
  0 < i ∧ template[i]? = some '?' ∧ template[i - 1]?.any fun before => ¬ InWord before

instance (template : List Char) (i : Nat) : Decidable (Marks template i) :=
  inferInstanceAs (Decidable (_ ∧ _))

/-- The positions of the markers, in order. -/
def markers (template : List Char) : List Nat :=
  (List.range template.length).filter (Marks template)

/-- A question mark after a marker is a marker; one after a word is none, and neither is one that
comes first. -/
example : markers "?a = x? AND (b = ? OR c IN ??)".toList = [17, 27, 28] := by decide

theorem isWordChar_iff {c : Char} : isWordChar c ↔ InWord c := by
  have hupper : c.isUpper ↔ 'A' ≤ c ∧ c ≤ 'Z' := decide_eq_true_iff
  have hlower : c.isLower ↔ 'a' ≤ c ∧ c ≤ 'z' := by
    show ('a' ≤ c && c ≤ 'z') = true ↔ _
    simp
  have hdigit : c.isDigit ↔ '0' ≤ c ∧ c ≤ '9' := by
    show ('0' ≤ c && c ≤ '9') = true ↔ _
    simp
  have halphanum : c.isAlphanum = (c.isUpper || c.isLower || c.isDigit) := rfl
  simp only [isWordChar, InWord, halphanum, Bool.or_eq_true, hupper, hlower, hdigit,
    decide_eq_true_eq, or_assoc]

theorem isMarkerAt_iff {template : List Char} {i : Nat} :
    isMarkerAt template i ↔ Marks template i := by
  rw [isMarkerAt, Bool.and_eq_true, decide_eq_true_eq]
  cases i with
  | zero => simp [Marks, charBefore?, endsWord]
  | succ i =>
    rw [charBefore?]
    cases hbefore : template[i]? with
    | none => simp [Marks, hbefore, endsWord]
    | some c => simp [Marks, hbefore, endsWord, ← isWordChar_iff]

theorem markers_eq_filter (template : List Char) :
    markers template = (List.range template.length).filter (isMarkerAt template) := by
  refine List.filter_congr fun i _ => ?_
  rw [Bool.eq_iff_iff, decide_eq_true_eq, isMarkerAt_iff]

/-! ## The number of a marker -/

/-- Among the positions that have a property, a position has as its number how many of them come
before it. -/
theorem getElem?_filter_range {p : Nat → Bool} {n k i : Nat}
    (h : ((List.range n).filter p)[k]? = some i) : p i ∧ (List.range i).countP p = k := by
  induction n with
  | zero => simp at h
  | succ n ih =>
    rw [List.range_succ, List.filter_append, List.getElem?_append,
      ← List.countP_eq_length_filter] at h
    split at h
    · exact ih h
    · -- The last position comes after all others.
      next hk =>
      by_cases hn : p n
      · obtain ⟨hzero, rfl⟩ : k - (List.range n).countP p = 0 ∧ n = i := by
          simpa [hn, List.getElem?_singleton] using h
        exact ⟨hn, by omega⟩
      · simp [hn] at h

theorem getElem?_markers {template : List Char} {k i : Nat} :
    (markers template)[k]? = some i ↔ isMarkerAt template i ∧ markersBefore template i = k := by
  rw [markers_eq_filter]
  constructor
  · exact getElem?_filter_range
  · rintro ⟨hmark, rfl⟩
    have hlt : i < template.length := by
      have hchar := (isMarkerAt_iff.mp hmark).2.1
      exact (List.getElem?_eq_some_iff.mp hchar).1
    obtain ⟨k, hk⟩ := List.mem_iff_getElem?.mp
      (List.mem_filter.mpr ⟨List.mem_range.mpr hlt, hmark⟩)
    rw [markersBefore, (getElem?_filter_range hk).2]
    exact hk

/-- From every position on, the markers that are still to come make up the number of all. -/
theorem markersBefore_add_count (template : List Char) {i : Nat} (hi : i ≤ template.length) :
    markersBefore template i
        + (parts (charBefore? template i) (template.drop i)).count .marker
      = (parts none template).count .marker := by
  induction i with
  | zero => simp [markersBefore, charBefore?]
  | succ i ih =>
    have hget : template[i]? = some template[i] := List.getElem?_eq_getElem hi
    have hbefore : charBefore? template (i + 1) = some template[i] := hget
    rw [← ih (Nat.le_of_succ_le hi), List.drop_eq_getElem_cons hi, parts, List.count_cons,
      markersBefore_succ, isMarkerAt_eq hget, hbefore]
    by_cases hm : template[i] = '?' ∧ endsWord (charBefore? template i)
    · simp [hm, Nat.add_assoc, Nat.add_comm 1]
    · simp [hm]

theorem length_markers (template : String) :
    (markers template.toList).length = markerCount template := by
  have h := markersBefore_add_count template.toList (Nat.le_refl _)
  rw [List.drop_length, parts, List.count_nil, Nat.add_zero] at h
  rw [markers_eq_filter, ← List.countP_eq_length_filter]
  exact h

/-! ## Texts of values -/

/-- How an item of a list is written. -/
inductive WritesItem (quote : Value → String) : Value → String → Prop where
  | null : WritesItem quote .null "NULL"
  | quoted {v : Value} (h : v ≠ .null) : WritesItem quote v (quote v)

/-- How a value is written instead of a marker. -/
inductive Writes (quote : Value → String) : Value → String → Prop where
  | null : Writes quote .null "NULL"
  | list {items : List Value} {texts : List String}
      (h : List.Forall₂ (WritesItem quote) items texts) :
      Writes quote (.list items) ("(" ++ ",".intercalate texts ++ ")")
  | quoted {v : Value} (hnull : v ≠ .null) (hlist : ∀ items, v ≠ .list items) :
      Writes quote v (quote v)

theorem writesItem_itemText (quote : Value → String) (v : Value) :
    WritesItem quote v (itemText quote v) := by
  cases v with
  | null => exact .null
  | _ => exact .quoted (by simp)

theorem writes_boundText (quote : Value → String) (v : Value) :
    Writes quote v (boundText quote v) := by
  cases v with
  | null => exact .null
  | list items =>
    refine .list ?_
    rw [List.forall₂_map_right_iff, List.forall₂_same]
    exact fun item _ => writesItem_itemText quote item
  | _ => exact .quoted (by simp) (by simp)

/-! ## Filling by number -/

/-- What the characters of a template become, one after the other: a marker whose number is that of
a value becomes the text of this value, and every other character stays. -/
structure BecomesByNumber (quote : Value → String) (template : List Char) (values : List Value)
    (pieces : List (List Char)) : Prop where
  length_eq : pieces.length = template.length
  bound : ∀ {k i : Nat} {v : Value}, (markers template)[k]? = some i → values[k]? = some v →
    ∃ text, Writes quote v text ∧ pieces[i]? = some text.toList
  kept : ∀ {i : Nat} {c : Char}, template[i]? = some c →
    (∀ k : Nat, (markers template)[k]? = some i → values[k]? = none) → pieces[i]? = some [c]

theorem becomesByNumber_pieceAt (quote : Value → String) (template : List Char)
    (values : List Value) :
    BecomesByNumber quote template values
      ((List.range template.length).map (pieceAt quote template values)) := by
  have hpiece {i : Nat} (hi : i < template.length) :
      ((List.range template.length).map (pieceAt quote template values))[i]?
        = some (pieceAt quote template values i) := by
    rw [List.getElem?_map, List.getElem?_range hi, Option.map_some]
  constructor
  case length_eq => simp
  case bound =>
    intro k i v hk hv
    obtain ⟨hmark, hbefore⟩ := getElem?_markers.mp hk
    obtain ⟨hi, -⟩ := List.getElem?_eq_some_iff.mp (isMarkerAt_iff.mp hmark).2.1
    have hbound : boundAt? template values i = some v := by
      rw [boundAt?, if_pos hmark, hbefore, hv]
    exact ⟨boundText quote v, writes_boundText quote v, by rw [hpiece hi, pieceAt_of_some hbound]⟩
  case kept =>
    intro i c hc hnone
    obtain ⟨hi, -⟩ := List.getElem?_eq_some_iff.mp hc
    have hbound : boundAt? template values i = none := by
      rw [boundAt?]
      split
      · next hmark => exact hnone _ (getElem?_markers.mpr ⟨hmark, rfl⟩)
      · rfl
    rw [hpiece hi, pieceAt_of_none hbound, hc]
    rfl

end Template

open Template in
/-- The text of a condition is its template filled by number, whatever the values are and however
they are quoted; a condition is reported exactly if it has not as many values as markers. -/
theorem Condition.text_by_number (quote : Value → String) (condition : Condition) :
    let template := condition.template.toList
    (∃ pieces, BecomesByNumber quote template condition.values pieces
        ∧ (condition.text quote).toList = pieces.flatten)
      ∧ condition.events
        = if (markers template).length = condition.values.length then []
          else [.markerMismatch condition.template (markers template).length
            condition.values.length] := by
  intro template
  constructor
  · refine ⟨_, becomesByNumber_pieceAt quote template condition.values, ?_⟩
    rw [Condition.text, toList_expand, filledTo, List.flatMap_def]
  · rw [Condition.events, length_markers]

end TableGateway
