import TableGateway.Proofs.Lexical.Reading
import TableGateway.Value.Text

/-!
# Literals are neutral

The literal of a value, whatever the value is, leaves a reader of the statement where it was.

Numbers and the texts of date-times consist of digits and a few characters that mean nothing to the
reader, within quotes or outside. A string ends its own quotation nowhere, because the characters
that could end it, and the backslash, are escaped. Lists are in parentheses, around items that are
neutral in turn.

Main statement: `neutral_literal`.
-/

namespace TableGateway.Lexical

/-! ## Numbers and date-times -/

/-- The characters of numbers and date-times. -/
def isFigure (c : Char) : Bool := c.isDigit || c ∈ ['-', '+', '.', ':', ' ']

/-- A text of figures only. -/
def Figures (text : List Char) : Prop := ∀ c ∈ text, isFigure c

instance (text : List Char) : Decidable (Figures text) :=
  List.decidableBAll (fun c => isFigure c) text

theorem Figures.append {a b : List Char} (ha : Figures a) (hb : Figures b) : Figures (a ++ b) := by
  intro c hc
  rcases List.mem_append.mp hc with hc | hc
  · exact ha c hc
  · exact hb c hc

theorem Figures.append_text {s t : String} (hs : Figures s.toList) (ht : Figures t.toList) :
    Figures (s ++ t).toList := by
  rw [String.toList_append]
  exact hs.append ht

theorem figures_of_digits {text : List Char} (h : ∀ c ∈ text, c.isDigit) : Figures text := by
  intro c hc
  rw [isFigure, h c hc, Bool.true_or]

theorem figures_zeros (n : Nat) : Figures (List.replicate n '0') :=
  figures_of_digits fun c hc => by rw [List.eq_of_mem_replicate hc]; rfl

theorem figures_digits (n : Nat) : Figures (Decimal.digits n) :=
  figures_of_digits fun _ hc => Decimal.isDigit_of_mem_digits hc

theorem figures_natText (n : Nat) : Figures (Decimal.natText n).toList := by
  rw [Decimal.natText, String.toList_ofList]
  exact figures_digits n

theorem figures_intText (n : Int) : Figures (Decimal.intText n).toList := by
  cases n with
  | ofNat n => exact figures_natText n
  | negSucc n => exact Figures.append_text (s := "-") (by decide) (figures_natText (n + 1))

/-- All places of a number, with the point and the zeros that fill up to it. -/
theorem figures_positionalText {wholeEnding : String} (h : Figures wholeEnding.toList)
    (d : Decimal) : Figures (d.positionalText wholeEnding).toList := by
  unfold Decimal.positionalText
  cases d.exponent with
  | ofNat k =>
    refine Figures.append_text ?_ h
    rw [String.toList_ofList]
    exact (figures_digits _).append (figures_zeros k)
  | negSucc k =>
    -- The point goes into the digits, which zeros in front make long enough.
    have hrun := (figures_zeros (k + 1 + 1 - (Decimal.digits d.coefficient).length)).append
      (figures_digits d.coefficient)
    refine Figures.append_text (Figures.append_text ?_ (by decide)) ?_
    · rw [String.toList_ofList]
      exact fun c hc => hrun c (List.mem_of_mem_take hc)
    · rw [String.toList_ofList]
      exact fun c hc => hrun c (List.mem_of_mem_drop hc)

/-- A finite floating-point number in a statement is written with all its places. -/
theorem figures_floatLayout_text (x : Binary64) : Figures (Value.floatLayout.text x).toList := by
  refine Figures.append_text ?_ ?_
  · split <;> decide
  · rw [if_pos (by rfl)]
    exact figures_positionalText (by decide) _

theorem figures_padded (width n : Nat) : Figures (DateTime.padded width n).toList := by
  rw [DateTime.padded, String.toList_ofList]
  exact (figures_zeros _).append (figures_digits n)

theorem figures_yearText (year : Int) : Figures (DateTime.yearText year).toList := by
  unfold DateTime.yearText
  split
  · exact Figures.append_text (s := "-") (by decide) (figures_padded 4 _)
  · split
    · exact figures_padded 4 _
    · exact Figures.append_text (s := "+") (by decide) (figures_padded 4 _)

/-- The text of a date-time: six numbers and what separates them. -/
theorem figures_dateTime_text (t : DateTime) : Figures t.text.toList := by
  have hdate : Figures (DateTime.dateText t.date).toList :=
    ((((figures_yearText _).append_text (by decide)).append_text (figures_padded 2 _)).append_text
      (by decide)).append_text (figures_padded 2 _)
  have htime : Figures (DateTime.timeText t.time).toList :=
    ((((figures_padded 2 _).append_text (by decide)).append_text (figures_padded 2 _)).append_text
      (by decide)).append_text (figures_padded 2 _)
  exact (hdate.append_text (by decide)).append_text htime

/-! ## Figures mean nothing to the reader -/

theorem not_mem_of_isFigure {c : Char} (h : isFigure c) :
    c ∉ ['\'', '"', '`', '(', ')', '\\'] := by
  intro hc
  simp only [List.mem_cons, List.not_mem_nil, or_false] at hc
  rcases hc with rfl | rfl | rfl | rfl | rfl | rfl <;> exact absurd h (by decide)

theorem Figures.neutral {text : List Char} (h : Figures text) : Neutral text := by
  refine neutral_of_inert fun c hc => inert_outside fun hmem => ?_
  refine not_mem_of_isFigure (h c hc) ?_
  simp only [List.mem_cons, List.not_mem_nil, or_false] at hmem ⊢
  rcases hmem with h | h | h | h | h <;> simp [h]

theorem Figures.inert_single {text : List Char} (h : Figures text) :
    ∀ c ∈ text, Inert (.string .single) c := by
  intro c hc
  have hnot := not_mem_of_isFigure (h c hc)
  refine inert_string (fun e => hnot ?_) (fun e => hnot ?_)
  · rw [e]; decide
  · rw [e]; decide

theorem neutral_floatText (x : Float) : Neutral (Value.floatText x).toList := by
  unfold Value.floatText
  split
  · exact (figures_floatLayout_text _).neutral
  · split
    · decide
    · split <;> decide

/-! ## Strings -/

/-- An escaped character ends no string: the reader is back in the string behind it. -/
theorem read_escapeChar (c : Char) (depth : Int) :
    read ⟨.string .single, depth⟩ (Value.escapeChar c) = ⟨.string .single, depth⟩
      ∧ StaysFrom depth ⟨.string .single, depth⟩ (Value.escapeChar c) := by
  have hslash : step ⟨.string .single, depth⟩ '\\' = ⟨.escape .single, depth⟩ := rfl
  have hpair : ∀ d, read ⟨.string .single, depth⟩ ['\\', d] = ⟨.string .single, depth⟩
      ∧ StaysFrom depth ⟨.string .single, depth⟩ ['\\', d] := by
    intro d
    rw [read_cons, staysFrom_cons, staysFrom_cons, staysFrom_nil, hslash]
    exact ⟨rfl, Int.le_refl _, Int.le_refl _, Int.le_refl _⟩
  -- Behind a backslash: what is special within a string, and the `0` that stands for NUL.
  unfold Value.escapeChar
  split
  · exact hpair c
  · next hquote =>
    simp only [not_or] at hquote
    split
    · exact hpair '0'
    · have hinert : ∀ d ∈ [c], Inert (.string .single) d := by
        intro d hd
        rw [List.mem_singleton.mp hd]
        exact inert_string hquote.1 hquote.2.2
      exact ⟨read_inert hinert depth, staysFrom_inert hinert depth⟩

theorem read_escaped (cs : List Char) (depth : Int) :
    read ⟨.string .single, depth⟩ (cs.flatMap Value.escapeChar) = ⟨.string .single, depth⟩
      ∧ StaysFrom depth ⟨.string .single, depth⟩ (cs.flatMap Value.escapeChar) := by
  induction cs with
  | nil => exact ⟨rfl, staysFrom_nil.mpr (Int.le_refl _)⟩
  | cons c cs ih =>
    obtain ⟨hread, hstays⟩ := read_escapeChar c depth
    rw [List.flatMap_cons, read_append, staysFrom_append, hread]
    exact ⟨ih.1, hstays, ih.2⟩

theorem neutral_quoted (s : String) : Neutral (Value.quoted s).toList := by
  rw [Value.quoted, String.toList_ofList]
  exact neutral_quotation (fun _ => rfl) (read_escaped s.toList) (fun _ => rfl)

theorem neutral_dateTime (t : DateTime) : Neutral ("'" ++ t.text ++ "'").toList := by
  have hinert := (figures_dateTime_text t).inert_single
  rw [String.toList_append, String.toList_append]
  exact neutral_quotation (fun _ => rfl)
    (fun depth => ⟨read_inert hinert depth, staysFrom_inert hinert depth⟩) (fun _ => rfl)

/-! ## Values -/

/-- Texts that are neutral, separated by commas and in parentheses. -/
theorem neutral_listed {items : List String} (h : ∀ item ∈ items, Neutral item.toList) :
    Neutral ("(" ++ ",".intercalate items ++ ")").toList := by
  rw [String.toList_append, String.toList_append]
  exact (neutral_intercalate (by decide) h).parenthesised

mutual

/-- A literal cannot change how the text around it is read. -/
theorem neutral_literal : ∀ v : Value, Neutral v.literal.toList
  | .null => by decide
  | .bool b => by cases b <;> decide
  | .int i => (figures_intText i.toInt).neutral
  | .float x => neutral_floatText x
  | .text s => neutral_quoted s
  | .dateTime t => neutral_dateTime t
  | .list items => neutral_listed (neutral_literals items)

theorem neutral_literals : ∀ items : List Value, ∀ t ∈ Value.literals items, Neutral t.toList
  | [] => fun _ ht => absurd ht List.not_mem_nil
  | item :: rest => by
    intro t ht
    rcases List.mem_cons.mp ht with rfl | ht
    · exact neutral_literal item
    · exact neutral_literals rest t ht

end

end TableGateway.Lexical
