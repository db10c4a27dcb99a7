import TableGateway.Proofs.Lexical.Literal
import TableGateway.Proofs.Template.Position
import TableGateway.Template.Condition

/-!
# No bound value changes the structure of a condition

If the markers that get values stand outside of quotations, a reader comes to every character that
the expanded condition has from its template in the state in which it comes to it in the template.
What is put in begins and ends outside, at one depth, and does not go below it.

The run through the template keeps one equation (`read_filledTo`): what has been written so far is
read as the template up to there is.

Main statements: `expand_reads_as_template`, `neutral_condition`.
-/

namespace TableGateway.Lexical

open Template

/-- Every marker that gets a value stands outside of quotations. -/
def MarkersOutside (start : State) (template : List Char) (values : List Value) : Prop :=
  ∀ i < template.length, (boundAt? template values i).isSome →
    (read start (template.take i)).place = .outside

instance (start : State) (template : List Char) (values : List Value) :
    Decidable (MarkersOutside start template values) :=
  inferInstanceAs (Decidable (∀ i < template.length, _ → _))

/-! ## Bound texts -/

theorem neutral_itemText (v : Value) : Neutral (itemText Value.literal v).toList := by
  cases v with
  | null => exact neutral_literal .null
  | _ => exact neutral_literal _

theorem neutral_boundText (v : Value) : Neutral (boundText Value.literal v).toList := by
  cases v with
  | null => exact neutral_literal .null
  | list items =>
    refine neutral_listed fun t ht => ?_
    obtain ⟨item, _, rfl⟩ := List.mem_map.mp ht
    exact neutral_itemText item
  | _ => exact neutral_literal _

/-! ## The run through a template -/

variable {start : State} {template : List Char} {values : List Value}

/-- A value is put in for a question mark only. -/
theorem getElem?_of_boundAt? {i : Nat} {v : Value} (h : boundAt? template values i = some v) :
    template[i]? = some '?' := by
  unfold boundAt? at h
  split at h
  · next hm =>
    rw [isMarkerAt, Bool.and_eq_true] at hm
    exact of_decide_eq_true hm.1
  · contradiction

/-- A reader outside of quotations stays there over a text that is neutral. -/
theorem read_neutral {s : State} {text : List Char} (hs : s.place = .outside)
    (h : Neutral text) : read s text = s ∧ StaysFrom s.depth s text := by
  obtain ⟨place, depth⟩ := s
  subst hs
  exact h depth

theorem read_take_succ {i : Nat} {c : Char} (h : template[i]? = some c) :
    read start (template.take (i + 1)) = step (read start (template.take i)) c := by
  rw [List.take_add_one, h, read_append]
  rfl

/-- What has been written up to a position is read as the template up to there is. -/
theorem read_filledTo (h : MarkersOutside start template values) {i : Nat}
    (hi : i ≤ template.length) :
    read start (filledTo Value.literal template values i) = read start (template.take i) := by
  induction i with
  | zero => rfl
  | succ i ih =>
    have hlt : i < template.length := hi
    have hbefore := ih (Nat.le_of_succ_le hi)
    rw [filledTo_succ, read_append, hbefore]
    cases hv : boundAt? template values i with
    | none =>
      have hget : template[i]? = some template[i] := List.getElem?_eq_getElem hlt
      rw [pieceAt_of_none hv, hget, read_take_succ hget]
      rfl
    | some v =>
      -- A question mark outside of quotations does nothing either.
      have hplace := h i hlt (by rw [hv]; rfl)
      rw [pieceAt_of_some hv, (read_neutral hplace (neutral_boundText v)).1,
        read_take_succ (getElem?_of_boundAt? hv), step, hplace]
      rfl

/-- While the template stays from a depth on, so does what is written for it. -/
theorem staysFrom_filledTo (h : MarkersOutside start template values) {floor : Int}
    (hstays : StaysFrom floor start template) {i : Nat} (hi : i ≤ template.length) :
    StaysFrom floor start (filledTo Value.literal template values i) := by
  induction i with
  | zero => exact staysFrom_nil.mpr (hstays 0 (Nat.zero_le _))
  | succ i ih =>
    have hlt : i < template.length := hi
    have hfloor := hstays i (Nat.le_of_lt hlt)
    rw [filledTo_succ, staysFrom_append, read_filledTo h (Nat.le_of_lt hlt)]
    refine ⟨ih (Nat.le_of_lt hlt), ?_⟩
    cases hv : boundAt? template values i with
    | none =>
      have hget : template[i]? = some template[i] := List.getElem?_eq_getElem hlt
      have hnext := hstays (i + 1) hi
      rw [read_take_succ hget] at hnext
      rw [pieceAt_of_none hv, hget, Option.toList_some, staysFrom_cons, staysFrom_nil]
      exact ⟨hfloor, hnext⟩
    | some v =>
      have hplace := h i hlt (by rw [hv]; rfl)
      rw [pieceAt_of_some hv]
      exact (read_neutral hplace (neutral_boundText v)).2.mono hfloor

/-! ## Expanded conditions -/

/-- Expanding a template with the default literals keeps how its characters are read. At every
position the reader of the expanded text is in the state in which the reader of the template is; a
position that gets no value keeps its character; a text that is put in is read from outside to
outside, ends at the depth at which it began, and does not go below; and so the two readers end in
the same state. -/
theorem expand_reads_as_template (start : State) (template : String) (values : List Value)
    (h : MarkersOutside start template.toList values) :
    (expand Value.literal template values).toList
        = filledTo Value.literal template.toList values template.toList.length
      ∧ read start (expand Value.literal template values).toList = read start template.toList
      ∧ ∀ i (hi : i < template.toList.length),
        let s := read start (filledTo Value.literal template.toList values i)
        let piece := pieceAt Value.literal template.toList values i
        s = read start (template.toList.take i)
          ∧ match boundAt? template.toList values i with
            | none => piece = [template.toList[i]]
            | some v =>
              piece = (boundText Value.literal v).toList ∧ s.place = .outside
                ∧ read s piece = s ∧ StaysFrom s.depth s piece := by
  refine ⟨toList_expand _ _ _, ?_, ?_⟩
  · rw [toList_expand, read_filledTo h (Nat.le_refl _), List.take_length]
  · intro i hi s piece
    have hs : s = read start (template.toList.take i) := read_filledTo h (Nat.le_of_lt hi)
    refine ⟨hs, ?_⟩
    cases hv : boundAt? template.toList values i with
    | none =>
      show piece = [template.toList[i]]
      rw [show piece = _ from pieceAt_of_none hv, List.getElem?_eq_getElem hi]
      rfl
    | some v =>
      have hpiece : piece = (boundText Value.literal v).toList := pieceAt_of_some hv
      have hplace : s.place = .outside := by
        rw [hs]
        exact h i hi (by rw [hv]; rfl)
      refine ⟨hpiece, hplace, ?_⟩
      rw [hpiece]
      exact read_neutral hplace (neutral_boundText v)

/-- A string that tries to end its own quotation, and a list of lists of such strings; the last
question mark stands within quotes and gets no value. -/
theorem expand_reads_as_template_hostile :
    MarkersOutside (.outside 0) "(a = ? OR b IN ?) AND c = '?'".toList
        [.text "\\' OR '1' = ('1", .list [.null, .list [.text "`)\x00\""]]]
      ∧ read (.outside 0) (expand Value.literal "(a = ? OR b IN ?) AND c = '?'"
          [.text "\\' OR '1' = ('1", .list [.null, .list [.text "`)\x00\""]]]).toList
        = .outside 0 := by
  have h : MarkersOutside (.outside 0) "(a = ? OR b IN ?) AND c = '?'".toList
      [.text "\\' OR '1' = ('1", .list [.null, .list [.text "`)\x00\""]]] := by decide
  exact ⟨h, (expand_reads_as_template _ _ _ h).2.1.trans (by decide)⟩

/-- A neutral template makes a neutral condition. -/
theorem neutral_condition {condition : Condition} (h : Neutral condition.template.toList)
    (hmarkers : MarkersOutside (.outside 0) condition.template.toList condition.values) :
    Neutral (condition.text Value.literal).toList := by
  obtain ⟨hread, hstays⟩ := neutral_iff.mp h
  rw [Condition.text, toList_expand]
  refine neutral_iff.mpr ⟨?_, staysFrom_filledTo hmarkers hstays (Nat.le_refl _)⟩
  rw [read_filledTo hmarkers (Nat.le_refl _), List.take_length, hread]

end TableGateway.Lexical
