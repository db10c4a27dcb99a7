import TableGateway.Driver.Scripted
import TableGateway.Proofs.Gateway.Sending
import TableGateway.Proofs.Value.Denotation

/-!
# What a count answers

The database answers a count with rows, and the number is the first value of the first row. A value
that denotes an integer of 64 bits is answered as this integer, and a value that denotes none is
refused with the name of its column. Beyond 64 bits the kinds of values differ: a text is refused,
but for a floating-point number the nearest end of the range is answered, which is a number that the
database did not give.

Main statements: `countOf_eq_iff`, `count_answers_denoted`, `count_answers_end_of_range`.
-/

namespace TableGateway.Gateway

open TableGateway.Action

/-- What is answered to a count when the database has given these rows. -/
inductive CountAnswer : List Columns → Except Error Int64 → Prop where
  | noRow : CountAnswer [] (.ok 0)
  | noColumn {columns : Columns} {more : List Columns} (h : columns.entries = []) :
      CountAnswer (columns :: more) (.ok 0)
  | number {columns : Columns} {more : List Columns} {column : String} {v : Value}
      {rest : List (String × Value)} {i : Int64} (h : columns.entries = (column, v) :: rest)
      (hv : v.Denotes i.toInt) : CountAnswer (columns :: more) (.ok i)
  /-- A floating-point number that is whole but beyond the range. -/
  | endOfRange {columns : Columns} {more : List Columns} {column : String} {x : Float}
      {rest : List (String × Value)} {n : Int} {i : Int64}
      (h : columns.entries = (column, .float x) :: rest) (hx : Value.Denotes (.float x) n)
      (hn : BeyondEnd n i) : CountAnswer (columns :: more) (.ok i)
  /-- No integer, or one beyond the range that does not come as a floating-point number. -/
  | refused {columns : Columns} {more : List Columns} {column : String} {v : Value}
      {rest : List (String × Value)} (h : columns.entries = (column, v) :: rest)
      (hv : ∀ n, v.Denotes n → ¬ FitsInt64 n ∧ ∀ x, v ≠ .float x) :
      CountAnswer (columns :: more)
        (.error (.decode column ("expected an integer count, got " ++ v.plainText)))

theorem countOf_cons {columns : Columns} {more : List Columns} {column : String} {v : Value}
    {rest : List (String × Value)} (h : columns.entries = (column, v) :: rest) :
    countOf (columns :: more)
      = match v.toInt64? with
        | some n => .ok n
        | none => .error (.decode column ("expected an integer count, got " ++ v.plainText)) := by
  rw [countOf, List.head?_cons, Option.bind_some, h]
  rfl

theorem countAnswer_countOf (rows : List Columns) : CountAnswer rows (countOf rows) := by
  rcases rows with _ | ⟨columns, more⟩
  · exact .noRow
  rcases h : columns.entries with _ | ⟨⟨column, v⟩, rest⟩
  · have hzero : countOf (columns :: more) = .ok 0 := by
      rw [countOf, List.head?_cons, Option.bind_some, h]
      rfl
    rw [hzero]
    exact .noColumn h
  rw [countOf_cons h]
  cases hread : v.toInt64? with
  | none => exact .refused h (Value.toInt64?_eq_none_iff.mp hread)
  | some i =>
    rcases Value.toInt64?_eq_some_iff.mp hread with hv | ⟨x, n, rfl, hx, hn⟩
    · exact .number h hv
    · exact .endOfRange h hx hn

/-- The answer to a count is the one that its rows call for, and they call for no other. -/
theorem countOf_eq_iff {rows : List Columns} {answer : Except Error Int64} :
    countOf rows = answer ↔ CountAnswer rows answer := by
  refine ⟨fun h => h ▸ countAnswer_countOf rows, fun h => ?_⟩
  cases h with
  | noRow => rfl
  | noColumn h =>
    rw [countOf, List.head?_cons, Option.bind_some, h]
    rfl
  | number h hv => rw [countOf_cons h, Value.toInt64?_eq_some_iff.mpr (.inl hv)]
  | endOfRange h hx hn =>
    rw [countOf_cons h, Value.toInt64?_eq_some_iff.mpr (.inr ⟨_, _, rfl, hx, hn⟩)]
  | refused h hv => rw [countOf_cons h, Value.toInt64?_eq_none_iff.mpr hv]

variable {δ σ α : Type} [Driver δ σ]

theorem runFrom_count (g : Gateway δ α) (s : Select) (field : Option String)
    (session : Session δ σ) :
    (g.count s field).runFrom session
      = ((g.fetched .count { sql := (s.counted field).toSql } session).1.bind countOf,
        (g.fetched .count { sql := (s.counted field).toSql } session).2) := by
  rw [count, runFrom_bind, runFrom_fetch]
  rcases g.fetched .count { sql := (s.counted field).toSql } session with ⟨_ | rows, after⟩ <;> rfl

/-- If the database refuses the count then so it is refused. If it gives rows then the answer is a
number of 64 bits exactly if the first value of the first row denotes it, or is a floating-point
number beyond this end of the range; without such a value it is zero, and otherwise an error that
names the column. -/
theorem count_answers_denoted (g : Gateway δ α) (s : Select) (field : Option String)
    (session : Session δ σ) :
    let asked := (Driver.query g.driver { sql := (s.counted field).toSql } session.database).1
    let answered := ((g.count s field).runFrom session).1
    (∀ e, asked = .error e → answered = .error e)
      ∧ ∀ rows, asked = .ok rows → ∀ answer, answered = answer ↔ CountAnswer rows answer := by
  intro asked answered
  have hanswered : answered = asked.bind countOf :=
    congrArg Prod.fst (g.runFrom_count s field session)
  refine ⟨fun e he => ?_, fun rows hrows answer => ?_⟩
  · rw [hanswered, he]
    rfl
  · rw [hanswered, hrows]
    exact countOf_eq_iff

/-- A text with blanks, a sign and zeros in front, a text with one more than the greatest number of
64 bits, and a database that refuses. -/
theorem count_answers_denoted_text :
    let g : Gateway ScriptedDriver Row := toTable ⟨"main", .plain⟩ "users"
    let s := Select.ofTable "users"
    let spelled : List Columns := [.ofList [("n", .text "\u3000+0012 "), ("m", .null)], .empty]
    let beyond : List Columns := [.ofList [("n", .text "9223372036854775808")]]
    ((g.count s none).runFrom ⟨{ rows := spelled }, []⟩).1 = .ok 12
      ∧ ((g.count s none).runFrom ⟨{ rows := beyond }, []⟩).1
        = .error (.decode "n" "expected an integer count, got 9223372036854775808")
      ∧ ((g.count s none).runFrom ⟨{ failure := some "gone" }, []⟩).1
        = .error (.driver "gone") := by
  intro g s spelled beyond
  refine ⟨?_, ?_, (count_answers_denoted g s none _).1 _ rfl⟩
  · refine ((count_answers_denoted g s none ⟨{ rows := spelled }, []⟩).2 spelled rfl _).mpr ?_
    exact .number rfl (Value.denotes_text_iff.mpr (by decide +kernel))
  · refine ((count_answers_denoted g s none ⟨{ rows := beyond }, []⟩).2 beyond rfl _).mpr ?_
    refine .refused (v := .text "9223372036854775808") rfl fun n hn => ⟨?_, fun x => nofun⟩
    have hread : Decimal.readInt? (Text.trimBlank "9223372036854775808".toList)
        = some 9223372036854775808 := by decide +kernel
    obtain rfl := Option.some.inj (hread.symm.trans (Value.denotes_text_iff.mp hn))
    decide

/-- The database gives the number `10 ^ 19`, which has more than 64 bits. Given as a floating-point
number it is answered as the greatest number of 64 bits; given as a text it is refused. -/
theorem count_answers_end_of_range :
    let g : Gateway ScriptedDriver Row := toTable ⟨"main", .plain⟩ "users"
    let s := Select.ofTable "users"
    let given : List Columns := [.ofList [("n", .float 1e19)]]
    let spelled : List Columns := [.ofList [("n", .text "10000000000000000000")]]
    Value.Denotes (.float 1e19) 10000000000000000000 ∧ ¬ FitsInt64 10000000000000000000
      ∧ ¬ Value.Denotes (.float 1e19) 9223372036854775807
      ∧ ((g.count s none).runFrom ⟨{ rows := given }, []⟩).1 = .ok 9223372036854775807
      ∧ ((g.count s none).runFrom ⟨{ rows := spelled }, []⟩).1
        = .error (.decode "n" "expected an integer count, got 10000000000000000000") := by
  intro g s given spelled
  refine ⟨Value.denotes_float_iff.mpr (by decide +kernel), by decide, ?_, ?_, ?_⟩
  · rw [Value.denotes_float_iff]
    decide +kernel
  · show countOf given = _
    decide +kernel
  · show countOf spelled = _
    decide +kernel

end TableGateway.Gateway
