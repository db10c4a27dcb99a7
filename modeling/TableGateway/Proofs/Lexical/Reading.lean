/-!
# Reading the quotations of a statement

A database reads the text of a statement character by character. What it has to know for telling
names, strings and structure apart is small: whether it stands within a quotation, and how many
parentheses are open. Within strings a backslash takes the character behind it along, within
backticks it means nothing, and parentheses count only outside of quotations.

A text is `Neutral` if it leaves such a reader where it was and never closes a parenthesis that it
has not opened. Neutral texts can be put next to each other, and in parentheses, without changing
how the text around them is read.

Main statements: `Neutral.append`, `Neutral.parenthesised`, `neutral_of_inert`,
`neutral_backticked`.
-/

namespace TableGateway.Lexical

/-! ## The reader -/

/-- The two kinds of quotation for strings. -/
inductive Mark where
  | single
  | double
  deriving DecidableEq, Repr

/-- The character that opens and closes a string. -/
def Mark.char : Mark → Char
  | .single => '\''
  | .double => '"'

/-- Where a reader stands. -/
inductive Place where
  | outside
  | string (mark : Mark)
  /-- In a string, behind a backslash. -/
  | escape (mark : Mark)
  /-- In backticks. -/
  | name
  deriving DecidableEq, Repr

structure State where
  place : Place := .outside
  /-- Parentheses that are open; negative where more were closed than opened. -/
  depth : Int := 0
  deriving DecidableEq, Repr

/-- The reader outside of quotations, at some depth. -/
def State.outside (depth : Int) : State := ⟨.outside, depth⟩

/-- The state after one more character. -/
def step (s : State) (c : Char) : State :=
  match s.place with
  | .outside =>
    if c = '\'' then ⟨.string .single, s.depth⟩
    else if c = '"' then ⟨.string .double, s.depth⟩
    else if c = '`' then ⟨.name, s.depth⟩
    else if c = '(' then .outside (s.depth + 1)
    else if c = ')' then .outside (s.depth - 1)
    else s
  | .string mark =>
    if c = '\\' then ⟨.escape mark, s.depth⟩
    else if c = mark.char then .outside s.depth
    else s
  | .escape mark => ⟨.string mark, s.depth⟩
  | .name => if c = '`' then .outside s.depth else s

/-- The state after a text. -/
def read (s : State) (text : List Char) : State := text.foldl step s

@[simp] theorem read_nil (s : State) : read s [] = s := rfl

@[simp] theorem read_cons (s : State) (c : Char) (text : List Char) :
    read s (c :: text) = read (step s c) text := rfl

theorem read_append (s : State) (a b : List Char) : read s (a ++ b) = read (read s a) b :=
  List.foldl_append

/-! ## Depth -/

/-- The same place, with `k` more parentheses open. -/
def State.deepen (s : State) (k : Int) : State := ⟨s.place, s.depth + k⟩

/-- What a character does does not depend on how many parentheses are open. -/
theorem step_deepen (s : State) (k : Int) (c : Char) :
    step (s.deepen k) c = (step s c).deepen k := by
  obtain ⟨place, depth⟩ := s
  cases place with
  | outside =>
    -- The depth changes only here, by a sum in which `k` can come last.
    have hopen : depth + k + 1 = depth + 1 + k := by omega
    have hclose : depth + k - 1 = depth - 1 + k := by omega
    simp only [step, State.deepen, State.outside, hopen, hclose]
    repeat' split
    all_goals rfl
  | string mark =>
    simp only [step, State.deepen, State.outside]
    repeat' split
    all_goals rfl
  | escape mark => rfl
  | name =>
    simp only [step, State.deepen, State.outside]
    split <;> rfl

theorem read_deepen (s : State) (k : Int) (text : List Char) :
    read (s.deepen k) text = (read s text).deepen k := by
  induction text generalizing s with
  | nil => rfl
  | cons c text ih => rw [read_cons, step_deepen, ih, read_cons]

/-- While it reads the text, the reader never stands below `floor`. -/
def StaysFrom (floor : Int) (s : State) (text : List Char) : Prop :=
  ∀ n ≤ text.length, floor ≤ (read s (text.take n)).depth

instance (floor : Int) (s : State) (text : List Char) : Decidable (StaysFrom floor s text) :=
  inferInstanceAs (Decidable (∀ n ≤ text.length, _))

theorem staysFrom_nil {floor : Int} {s : State} : StaysFrom floor s [] ↔ floor ≤ s.depth := by
  simp [StaysFrom]

theorem staysFrom_cons {floor : Int} {s : State} {c : Char} {text : List Char} :
    StaysFrom floor s (c :: text) ↔ floor ≤ s.depth ∧ StaysFrom floor (step s c) text := by
  -- At 0 nothing has been read; at `n + 1` it is `c` and then `n` characters of the rest.
  constructor
  · intro h
    refine ⟨h 0 (Nat.zero_le _), fun n hn => ?_⟩
    exact h (n + 1) (Nat.succ_le_succ hn)
  · rintro ⟨h0, h⟩ n hn
    cases n with
    | zero => exact h0
    | succ n => exact h n (Nat.le_of_succ_le_succ hn)

theorem staysFrom_append {floor : Int} {s : State} {a b : List Char} :
    StaysFrom floor s (a ++ b) ↔ StaysFrom floor s a ∧ StaysFrom floor (read s a) b := by
  induction a generalizing s with
  | nil =>
    rw [List.nil_append, read_nil, staysFrom_nil]
    exact ⟨fun h => ⟨h 0 (Nat.zero_le _), h⟩, And.right⟩
  | cons c a ih => rw [List.cons_append, staysFrom_cons, staysFrom_cons, ih, read_cons, and_assoc]

theorem StaysFrom.deepen {floor : Int} {s : State} {text : List Char} (h : StaysFrom floor s text)
    (k : Int) : StaysFrom (floor + k) (s.deepen k) text := by
  intro n hn
  rw [read_deepen]
  exact Int.add_le_add_right (h n hn) k

theorem StaysFrom.mono {low floor : Int} {s : State} {text : List Char}
    (h : StaysFrom floor s text) (hle : low ≤ floor) : StaysFrom low s text :=
  fun n hn => Int.le_trans hle (h n hn)

/-! ## Neutral texts -/

/-- Begun outside of quotations at any depth, the text ends outside at the same depth, and does not
go below it on the way. -/
def Neutral (text : List Char) : Prop :=
  ∀ depth, read (.outside depth) text = .outside depth ∧ StaysFrom depth (.outside depth) text

/-- One depth stands for all. -/
theorem neutral_iff {text : List Char} :
    Neutral text ↔ read (.outside 0) text = .outside 0 ∧ StaysFrom 0 (.outside 0) text := by
  constructor
  · exact fun h => h 0
  · rintro ⟨hread, hstays⟩ depth
    have hdeep : State.outside depth = (State.outside 0).deepen depth := by
      simp [State.outside, State.deepen]
    refine ⟨by rw [hdeep, read_deepen, hread], ?_⟩
    have h := hstays.deepen depth
    rwa [← hdeep, Int.zero_add] at h

instance (text : List Char) : Decidable (Neutral text) := decidable_of_iff _ neutral_iff.symm

theorem neutral_nil : Neutral [] := by decide

theorem neutral_space : Neutral " ".toList := by decide

theorem Neutral.append {a b : List Char} (ha : Neutral a) (hb : Neutral b) : Neutral (a ++ b) := by
  intro depth
  rw [read_append, staysFrom_append, (ha depth).1]
  exact ⟨(hb depth).1, (ha depth).2, (hb depth).2⟩

theorem Neutral.append_text {s t : String} (hs : Neutral s.toList) (ht : Neutral t.toList) :
    Neutral (s ++ t).toList := by
  rw [String.toList_append]
  exact hs.append ht

/-- What stands in parentheses is read one level deeper, and may not close them. -/
theorem Neutral.parenthesised {text : List Char} (h : Neutral text) :
    Neutral ('(' :: text ++ [')']) := by
  intro depth
  have hopen : step (.outside depth) '(' = .outside (depth + 1) := rfl
  have hclose : step (.outside (depth + 1)) ')' = .outside depth := by
    simp [step, State.outside]
  obtain ⟨hread, hstays⟩ := h (depth + 1)
  constructor
  · rw [List.cons_append, read_cons, hopen, read_append, hread, read_cons, hclose, read_nil]
  · rw [List.cons_append, staysFrom_cons, hopen, staysFrom_append, hread, staysFrom_cons, hclose,
      staysFrom_nil]
    -- Within the parentheses the text stays one level above what is asked for.
    have hle : depth ≤ depth + 1 := by omega
    exact ⟨Int.le_refl _, hstays.mono hle, hle, Int.le_refl _⟩

/-! ## Inert texts

A character may do nothing at the place where it is read. The texts that the library writes consist
of such characters for the most part.
-/

/-- At this place the character changes nothing. -/
def Inert (place : Place) (c : Char) : Prop := ∀ depth, step ⟨place, depth⟩ c = ⟨place, depth⟩

theorem inert_outside {c : Char} (h : c ∉ ['\'', '"', '`', '(', ')']) : Inert .outside c := by
  simp only [List.mem_cons, List.not_mem_nil, or_false, not_or] at h
  obtain ⟨h1, h2, h3, h4, h5⟩ := h
  intro depth
  simp [step, h1, h2, h3, h4, h5]

theorem inert_string {mark : Mark} {c : Char} (hmark : c ≠ mark.char) (hslash : c ≠ '\\') :
    Inert (.string mark) c := by
  intro depth
  simp [step, hmark, hslash]

theorem inert_name {c : Char} (h : c ≠ '`') : Inert .name c := by
  intro depth
  simp [step, h]

theorem read_inert {place : Place} {text : List Char} (h : ∀ c ∈ text, Inert place c)
    (depth : Int) : read ⟨place, depth⟩ text = ⟨place, depth⟩ := by
  induction text with
  | nil => rfl
  | cons c text ih =>
    rw [read_cons, h c List.mem_cons_self]
    exact ih fun d hd => h d (List.mem_cons_of_mem _ hd)

theorem staysFrom_inert {place : Place} {text : List Char} (h : ∀ c ∈ text, Inert place c)
    (depth : Int) : StaysFrom depth ⟨place, depth⟩ text := by
  intro n _
  have hread : read ⟨place, depth⟩ (text.take n) = ⟨place, depth⟩ :=
    read_inert (fun c hc => h c (List.mem_of_mem_take hc)) depth
  exact Int.le_of_eq (congrArg State.depth hread).symm

theorem neutral_of_inert {text : List Char} (h : ∀ c ∈ text, Inert .outside c) : Neutral text :=
  fun depth => ⟨read_inert h depth, staysFrom_inert h depth⟩

/-! ## Quotations -/

/-- A quotation that opens with `mark`, stays within, and closes with `mark`. -/
theorem neutral_quotation {place : Place} {mark : Char} {body : List Char}
    (hopen : ∀ depth, step (.outside depth) mark = ⟨place, depth⟩)
    (hbody : ∀ depth, read ⟨place, depth⟩ body = ⟨place, depth⟩
      ∧ StaysFrom depth ⟨place, depth⟩ body)
    (hclose : ∀ depth, step ⟨place, depth⟩ mark = .outside depth) :
    Neutral (mark :: body ++ [mark]) := by
  intro depth
  constructor
  · rw [List.cons_append, read_cons, hopen, read_append, (hbody depth).1, read_cons, hclose,
      read_nil]
  · rw [List.cons_append, staysFrom_cons, hopen, staysFrom_append, (hbody depth).1,
      staysFrom_cons, hclose, staysFrom_nil]
    exact ⟨Int.le_refl _, (hbody depth).2, Int.le_refl _, Int.le_refl _⟩

/-- A name without backticks is neutral in backticks. -/
theorem neutral_backticked {name : List Char} (h : '`' ∉ name) :
    Neutral ('`' :: name ++ ['`']) := by
  have hinert : ∀ c ∈ name, Inert .name c := fun c hc => inert_name fun e => h (e ▸ hc)
  exact neutral_quotation (fun _ => rfl)
    (fun depth => ⟨read_inert hinert depth, staysFrom_inert hinert depth⟩) (fun _ => rfl)

/-! ## Lists of texts -/

theorem neutral_flatMap {α : Type} {text : α → List Char} {items : List α}
    (h : ∀ item ∈ items, Neutral (text item)) : Neutral (items.flatMap text) := by
  induction items with
  | nil => exact neutral_nil
  | cons item rest ih =>
    rw [List.flatMap_cons]
    exact (h item List.mem_cons_self).append
      (ih fun other hother => h other (List.mem_cons_of_mem _ hother))

theorem neutral_intercalate {separator : String} {items : List String}
    (hsep : Neutral separator.toList) (h : ∀ item ∈ items, Neutral item.toList) :
    Neutral (separator.intercalate items).toList := by
  induction items with
  | nil =>
    rw [String.intercalate_nil]
    exact neutral_nil
  -- A separator needs two items around it, so the case of one item is apart.
  | cons item rest ih =>
    have hrest := ih fun other hother => h other (List.mem_cons_of_mem _ hother)
    cases rest with
    | nil =>
      rw [String.intercalate_singleton]
      exact h item List.mem_cons_self
    | cons next rest =>
      rw [String.intercalate_cons_cons, String.toList_append, String.toList_append]
      exact ((h item List.mem_cons_self).append hsep).append hrest

end TableGateway.Lexical
