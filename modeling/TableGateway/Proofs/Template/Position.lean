import TableGateway.Template.Basic

/-!
# Templates by position

`Template.fill` works through a template from left to right and takes values off a list. Here the
same is said position by position: which positions are markers, which value a marker gets, and what
the character at a position becomes. None of this looks at a text that was put in, so a question
mark inside of a value is never a marker.

Main statement: `toList_expand`.
-/

namespace TableGateway.Template

/-- The character before a position. -/
def charBefore? (template : List Char) : Nat → Option Char
  | 0 => none
  | i + 1 => template[i]?

/-- Whether the character at a position is a marker. -/
def isMarkerAt (template : List Char) (i : Nat) : Bool :=
  template[i]? = some '?' && endsWord (charBefore? template i)

/-- The number of markers before a position. -/
def markersBefore (template : List Char) (i : Nat) : Nat :=
  (List.range i).countP (isMarkerAt template)

/-- The value that is put in at a position: markers beyond the last value get none. -/
def boundAt? (template : List Char) (values : List Value) (i : Nat) : Option Value :=
  if isMarkerAt template i then values[markersBefore template i]? else none

/-- What the character at a position becomes. -/
def pieceAt (quote : Value → String) (template : List Char) (values : List Value) (i : Nat) :
    List Char :=
  match boundAt? template values i with
  | some v => (boundText quote v).toList
  | none => template[i]?.toList

/-- What the characters before a position become. -/
def filledTo (quote : Value → String) (template : List Char) (values : List Value) (i : Nat) :
    List Char :=
  (List.range i).flatMap (pieceAt quote template values)

theorem filledTo_succ (quote : Value → String) (template : List Char) (values : List Value)
    (i : Nat) : filledTo quote template values (i + 1)
      = filledTo quote template values i ++ pieceAt quote template values i := by
  rw [filledTo, List.range_succ, List.flatMap_append, List.flatMap_singleton, filledTo]

theorem markersBefore_succ (template : List Char) (i : Nat) :
    markersBefore template (i + 1)
      = markersBefore template i + if isMarkerAt template i then 1 else 0 := by
  rw [markersBefore, List.range_succ, List.countP_append, List.countP_singleton, markersBefore]

theorem isMarkerAt_eq {template : List Char} {i : Nat} {c : Char} (h : template[i]? = some c) :
    isMarkerAt template i = decide (c = '?' ∧ endsWord (charBefore? template i)) := by
  rw [isMarkerAt, h]
  simp

/-- Where no value is put in, a character stays. -/
theorem pieceAt_of_none {quote : Value → String} {template : List Char} {values : List Value}
    {i : Nat} (h : boundAt? template values i = none) :
    pieceAt quote template values i = template[i]?.toList := by
  rw [pieceAt, h]

theorem pieceAt_of_some {quote : Value → String} {template : List Char} {values : List Value}
    {i : Nat} {v : Value} (h : boundAt? template values i = some v) :
    pieceAt quote template values i = (boundText quote v).toList := by
  rw [pieceAt, h]

/-! ## The run through a template -/

variable (quote : Value → String) (template : List Char) (values : List Value)

/-- What the run through the template still writes when it has come to a position. -/
def remainder (i : Nat) : List Char :=
  fill quote (parts (charBefore? template i) (template.drop i))
    (values.drop (markersBefore template i))

/-- One step of the run writes what the character at its position becomes. -/
theorem remainder_step {i : Nat} (hi : i < template.length) :
    remainder quote template values i
      = pieceAt quote template values i ++ remainder quote template values (i + 1) := by
  have hget : template[i]? = some template[i] := List.getElem?_eq_getElem hi
  have hbefore : charBefore? template (i + 1) = some template[i] := hget
  rw [remainder, List.drop_eq_getElem_cons hi, parts, remainder, hbefore, markersBefore_succ]
  by_cases hm : isMarkerAt template i
  · -- A marker takes the next value; if none is left it stays, and so do all later ones.
    have hmark : template[i] = '?' ∧ endsWord (charBefore? template i) := by
      rw [isMarkerAt_eq hget] at hm
      exact of_decide_eq_true hm
    rw [if_pos hmark, if_pos hm]
    cases hv : values[markersBefore template i]? with
    | none =>
      have hlen := List.getElem?_eq_none_iff.mp hv
      have hpiece : pieceAt quote template values i = ['?'] := by
        rw [pieceAt_of_none (by rw [boundAt?, if_pos hm, hv]), hget, hmark.1]
        rfl
      rw [List.drop_eq_nil_of_le hlen, List.drop_eq_nil_of_le (Nat.le_succ_of_le hlen), fill,
        hpiece]
      rfl
    | some v =>
      obtain ⟨hlen, hval⟩ := List.getElem?_eq_some_iff.mp hv
      rw [pieceAt_of_some (by rw [boundAt?, if_pos hm, hv]), List.drop_eq_getElem_cons hlen, hval,
        fill]
  · -- Any other character stays and leaves the values as they are.
    have hmark : ¬ (template[i] = '?' ∧ endsWord (charBefore? template i)) := by
      rw [isMarkerAt_eq hget] at hm
      exact of_decide_eq_false (Bool.not_eq_true _ ▸ hm)
    rw [if_neg hmark, if_neg hm, Nat.add_zero, fill,
      pieceAt_of_none (by rw [boundAt?, if_neg hm]), hget]
    rfl

/-- At every position, what is written and what remains make up the whole text. -/
theorem filledTo_append_remainder {i : Nat} (hi : i ≤ template.length) :
    filledTo quote template values i ++ remainder quote template values i
      = fill quote (parts none template) values := by
  induction i with
  | zero => rfl
  | succ i ih =>
    rw [filledTo_succ, List.append_assoc, ← remainder_step quote template values hi]
    exact ih (Nat.le_of_succ_le hi)

/-- The text of a template is made of what its characters become. -/
theorem toList_expand (template : String) :
    (expand quote template values).toList
      = filledTo quote template.toList values template.toList.length := by
  rw [expand, String.toList_ofList,
    ← filledTo_append_remainder quote template.toList values (Nat.le_refl _), remainder,
    List.drop_length, parts, fill, List.append_nil]

end TableGateway.Template
