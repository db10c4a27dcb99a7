import Mathlib.Data.List.TakeWhile
import TableGateway.Calendar
import TableGateway.Proofs.Decimal.Digits

/-!
# Dates read back from their texts

A reader of dates knows the form of their texts and nothing of how they are put together. A year has
four digits, or a sign and as many digits as it takes, but at least four; month and day have two
digits each, behind a hyphen. The day has to be one of the calendar. What follows the date is left.

The reader accepts the texts of dates and no others, and gives the date back.

Main statements: `number?_eq_some_iff`, `year?_eq_some_iff`, `date?_eq_some_iff`.
-/

namespace TableGateway

open Decimal (IsRun digits isRun_digits ofDigitChars_digits length_digits_le_iff)

namespace DateTime

variable {width n : Nat} {cs rest : List Char}

/-! ## Numbers of a width -/

theorem toList_padded (width n : Nat) :
    (padded width n).toList = List.replicate (width - (digits n).length) '0' ++ digits n := by
  rw [padded, String.toList_ofList]

theorem isRun_padded (width n : Nat) : IsRun (padded width n).toList := by
  rw [toList_padded]
  exact (isRun_digits n).zeros_append _

theorem ofDigitChars_padded (width n : Nat) :
    Nat.ofDigitChars 10 (padded width n).toList 0 = n := by
  rw [toList_padded, Nat.ofDigitChars_append, Nat.ofDigitChars_replicate_zero, Nat.mul_zero,
    ofDigitChars_digits]

/-- A number that fits has exactly the width. -/
theorem length_padded (hwidth : 0 < width) (hn : n < 10 ^ width) :
    (padded width n).toList.length = width := by
  have hle := (length_digits_le_iff hwidth).mpr hn
  rw [toList_padded, List.length_append, List.length_replicate, Nat.sub_add_cancel hle]

/-- A number that does not fit has no zeros in front. -/
theorem padded_of_le (hwidth : 0 < width) (hn : 10 ^ width ≤ n) :
    (padded width n).toList = digits n := by
  have hlt : width < (digits n).length :=
    Nat.lt_of_not_le fun hle => Nat.not_lt_of_le hn ((length_digits_le_iff hwidth).mp hle)
  rw [toList_padded, Nat.sub_eq_zero_of_le (Nat.le_of_lt hlt), List.replicate_zero, List.nil_append]

/-- The runs that are the text of their number: those of the width, and longer ones without a zero
in front. -/
theorem eq_padded_iff {run : List Char} (h : IsRun run) (hwidth : 0 < width) :
    run = (padded width (Nat.ofDigitChars 10 run 0)).toList
      ↔ run.length = width ∨ width < run.length ∧ run.head? ≠ some '0' := by
  constructor
  · intro heq
    by_cases hn : Nat.ofDigitChars 10 run 0 < 10 ^ width
    · exact .inl (heq ▸ length_padded hwidth hn)
    · have hle := Nat.le_of_not_lt hn
      rw [padded_of_le hwidth hle] at heq
      refine .inr ⟨Nat.lt_of_not_le fun hlength => hn ?_, ?_⟩
      · rw [heq] at hlength
        exact (length_digits_le_iff hwidth).mp hlength
      · rw [heq]
        exact Decimal.head?_digits_ne (Nat.lt_of_lt_of_le (Nat.pow_pos (by decide)) hle)
  · rintro (rfl | ⟨hlength, hhead⟩)
    · rw [toList_padded]
      exact h.eq_zeros_append
    · have heq := h.eq_digits hhead
      rw [toList_padded, ← heq, Nat.sub_eq_zero_of_le (Nat.le_of_lt hlength), List.replicate_zero,
        List.nil_append]

/-! ## Numbers are read -/

/-- The number in the next characters, all of them digits, and what follows them. -/
def number? (width : Nat) (cs : List Char) : Option (Nat × List Char) :=
  let run := cs.take width
  if run.length = width ∧ run.all Char.isDigit then
    some (Nat.ofDigitChars 10 run 0, cs.drop width)
  else none

/-- The number in all digits that come next, of which there are at least so many; if there are more
the first one is not zero. -/
def longNumber? (width : Nat) (cs : List Char) : Option (Nat × List Char) :=
  let run := cs.takeWhile Char.isDigit
  if run.length = width ∨ width < run.length ∧ run.head? ≠ some '0' then
    some (Nat.ofDigitChars 10 run 0, cs.dropWhile Char.isDigit)
  else none

/-- What follows a character that has to come next. -/
def after? (c : Char) : List Char → Option (List Char)
  | [] => none
  | d :: cs => if d = c then some cs else none

theorem number?_eq_some_iff (hwidth : 0 < width) :
    number? width cs = some (n, rest)
      ↔ n < 10 ^ width ∧ cs = (padded width n).toList ++ rest := by
  unfold number?
  dsimp only
  constructor
  · intro h
    split at h
    · next hrun =>
      obtain ⟨rfl, rfl⟩ := Prod.mk.inj (Option.some.inj h)
      have hdigits : IsRun (cs.take width) :=
        ⟨fun hnil => by simp [hnil] at hrun; omega, List.all_eq_true.mp hrun.2⟩
      have hlt := hdigits.ofDigitChars_lt
      rw [hrun.1] at hlt
      refine ⟨hlt, ?_⟩
      rw [← (eq_padded_iff hdigits hwidth).mpr (.inl hrun.1), List.take_append_drop]
    · contradiction
  · rintro ⟨hn, rfl⟩
    have hlength := length_padded hwidth hn
    rw [List.take_left' hlength, List.drop_left' hlength, ofDigitChars_padded,
      if_pos ⟨hlength, List.all_eq_true.mpr (isRun_padded width n).digits⟩]

theorem number?_padded (hwidth : 0 < width) (hn : n < 10 ^ width) (rest : List Char) :
    number? width ((padded width n).toList ++ rest) = some (n, rest) :=
  (number?_eq_some_iff hwidth).mpr ⟨hn, rfl⟩

theorem longNumber?_eq_some_iff (hwidth : 0 < width) (hrest : rest.takeWhile Char.isDigit = []) :
    longNumber? width cs = some (n, rest) ↔ cs = (padded width n).toList ++ rest := by
  unfold longNumber?
  dsimp only
  constructor
  · intro h
    split at h
    · next hrun =>
      obtain ⟨rfl, rfl⟩ := Prod.mk.inj (Option.some.inj h)
      have hdigits : IsRun (cs.takeWhile Char.isDigit) :=
        ⟨fun hnil => by simp [hnil] at hrun; omega, fun c hc => List.mem_takeWhile_imp hc⟩
      rw [← (eq_padded_iff hdigits hwidth).mpr hrun, List.takeWhile_append_dropWhile]
    · contradiction
  · rintro rfl
    have hrun := isRun_padded width n
    have hform := (eq_padded_iff hrun hwidth).mp (by rw [ofDigitChars_padded])
    rw [hrun.takeWhile_append hrest, hrun.dropWhile_append hrest, if_pos hform,
      ofDigitChars_padded]

theorem longNumber?_padded (n : Nat) (hwidth : 0 < width)
    (hrest : rest.takeWhile Char.isDigit = []) :
    longNumber? width ((padded width n).toList ++ rest) = some (n, rest) :=
  (longNumber?_eq_some_iff hwidth hrest).mpr rfl

theorem after?_eq_some_iff {c : Char} : after? c cs = some rest ↔ cs = c :: rest := by
  cases cs with
  | nil => simp [after?]
  | cons d cs =>
    rw [after?, List.cons.injEq]
    split <;> simp [*]

/-! ## Years -/

/-- A year, and what follows it. There is no year minus zero, and no plus where four digits do. -/
def year? : List Char → Option (Int × List Char)
  | '-' :: cs => do
    let (n, rest) ← longNumber? 4 cs
    if n = 0 then none else return (-n, rest)
  | '+' :: cs => do
    let (n, rest) ← longNumber? 4 cs
    if n ≤ 9999 then none else return (n, rest)
  | cs => do
    let (n, rest) ← number? 4 cs
    return (n, rest)

/-- No sign is a digit. -/
theorem number?_cons_of_not_isDigit {c : Char} (hwidth : 0 < width) (hc : ¬ c.isDigit) :
    number? width (c :: cs) = none := by
  obtain ⟨width, rfl⟩ := Nat.exists_eq_succ_of_ne_zero (Nat.ne_of_gt hwidth)
  exact if_neg fun h => hc (List.all_eq_true.mp h.2 c List.mem_cons_self)

theorem year?_eq_some_iff {year : Int} (hrest : rest.takeWhile Char.isDigit = []) :
    year? cs = some (year, rest) ↔ cs = (yearText year).toList ++ rest := by
  constructor
  · intro h
    unfold year? at h
    split at h
    · obtain ⟨⟨n, rest'⟩, hn, h⟩ := Option.bind_eq_some_iff.mp h
      dsimp only at h
      split at h
      · contradiction
      · next hpos =>
        obtain ⟨rfl, rfl⟩ := Prod.mk.inj (Option.some.inj h)
        rw [(longNumber?_eq_some_iff (by decide) hrest).mp hn, yearText, if_pos (by omega)]
        simp
    · obtain ⟨⟨n, rest'⟩, hn, h⟩ := Option.bind_eq_some_iff.mp h
      dsimp only at h
      split at h
      · contradiction
      · next hlarge =>
        obtain ⟨rfl, rfl⟩ := Prod.mk.inj (Option.some.inj h)
        rw [(longNumber?_eq_some_iff (by decide) hrest).mp hn, yearText, if_neg (by omega),
          if_neg (by omega)]
        simp
    · obtain ⟨⟨n, rest'⟩, hn, h⟩ := Option.bind_eq_some_iff.mp h
      obtain ⟨rfl, rfl⟩ := Prod.mk.inj (Option.some.inj h)
      obtain ⟨hlt, rfl⟩ := (number?_eq_some_iff (by decide)).mp hn
      rw [yearText, if_neg (by omega), if_pos (by omega), Int.natAbs_natCast]
  · rintro rfl
    rw [yearText]
    split
    · next hneg =>
      have hn := longNumber?_padded year.natAbs (by decide : 0 < 4) hrest
      have hpos : year.natAbs ≠ 0 := by omega
      have hyear : -(year.natAbs : Int) = year := by omega
      have htext : ("-" ++ padded 4 year.natAbs).toList ++ rest
          = '-' :: ((padded 4 year.natAbs).toList ++ rest) := by simp
      rw [htext, year?, hn]
      simp only [Option.bind_eq_bind, Option.bind_some, if_neg hpos, hyear]
      rfl
    · split
      · next hsmall =>
        have hlt : year.natAbs < 10 ^ 4 := by omega
        have hn := number?_padded (by decide) hlt rest
        have hyear : (year.natAbs : Int) = year := by omega
        unfold year?
        -- Four digits begin with no sign.
        split
        · next hsign =>
          rw [hsign, number?_cons_of_not_isDigit (by decide) (by decide)] at hn
          contradiction
        · next hsign =>
          rw [hsign, number?_cons_of_not_isDigit (by decide) (by decide)] at hn
          contradiction
        · rw [hn]
          simp [hyear]
      · next hlarge =>
        have hn := longNumber?_padded year.natAbs (by decide : 0 < 4) hrest
        have hlt : ¬ year.natAbs ≤ 9999 := by omega
        have hyear : (year.natAbs : Int) = year := by omega
        simp [year?, hn, hlt, hyear]

theorem year?_yearText (year : Int) (hrest : rest.takeWhile Char.isDigit = []) :
    year? ((yearText year).toList ++ rest) = some (year, rest) :=
  (year?_eq_some_iff hrest).mpr rfl

end DateTime

/-! ## Dates -/

namespace Date

/-- The numbers of a date. -/
theorem ofNumbers?_eq_some_iff {year : Int} {month day : Nat} {d : Date} :
    ofNumbers? year month day = some d ↔ year = d.year ∧ month = d.month ∧ day = d.day := by
  unfold ofNumbers?
  constructor
  · intro h
    split at h
    · split at h
      · obtain rfl := Option.some.inj h
        exact ⟨rfl, rfl, rfl⟩
      · contradiction
    · contradiction
  · rintro ⟨rfl, rfl, rfl⟩
    rw [dif_pos d.month_mem, dif_pos d.day_mem]

theorem month_lt (d : Date) : d.month < 10 ^ 2 := by
  have := d.month_mem
  omega

theorem day_lt (d : Date) : d.day < 10 ^ 2 := by
  have hmem := d.day_mem
  have hle : daysInMonth d.year d.month ≤ 31 := by
    unfold daysInMonth
    repeat' split
    all_goals omega
  omega

end Date

namespace DateTime

variable {cs rest : List Char}

/-- A date, and what follows it. -/
def date? (cs : List Char) : Option (Date × List Char) := do
  let (year, cs) ← year? cs
  let cs ← after? '-' cs
  let (month, cs) ← number? 2 cs
  let cs ← after? '-' cs
  let (day, cs) ← number? 2 cs
  let date ← Date.ofNumbers? year month day
  return (date, cs)

theorem date?_eq_some_iff {d : Date} :
    date? cs = some (d, rest) ↔ cs = (dateText d).toList ++ rest := by
  have htext : (dateText d).toList ++ rest = (yearText d.year).toList
      ++ '-' :: ((padded 2 d.month).toList ++ '-' :: ((padded 2 d.day).toList ++ rest)) := by
    simp [dateText]
  rw [htext]
  constructor
  · intro h
    simp only [date?, Option.bind_eq_bind, Option.bind_eq_some_iff, Prod.exists,
      after?_eq_some_iff, number?_eq_some_iff (by decide : 0 < 2),
      Date.ofNumbers?_eq_some_iff] at h
    obtain ⟨year, _, hyear, _, rfl, month, _, ⟨-, rfl⟩, _, rfl, day, _, ⟨-, rfl⟩, _,
      ⟨rfl, rfl, rfl⟩, heq⟩ := h
    obtain ⟨rfl, rfl⟩ := Prod.mk.inj (Option.some.inj heq)
    exact (year?_eq_some_iff rfl).mp hyear
  · rintro rfl
    have hday := number?_padded (by decide) d.day_lt rest
    have hmonth := number?_padded (by decide) d.month_lt
      ('-' :: ((padded 2 d.day).toList ++ rest))
    have hyear := year?_yearText d.year
      (rfl : ('-' :: ((padded 2 d.month).toList ++ '-' :: ((padded 2 d.day).toList
        ++ rest))).takeWhile Char.isDigit = [])
    have hdate := Date.ofNumbers?_eq_some_iff.mpr ⟨rfl, rfl, (rfl : d.day = d.day)⟩
    simp only [date?, hyear, hmonth, hday, hdate, after?, Option.bind_eq_bind, Option.bind_some,
      if_true]
    rfl

end DateTime

end TableGateway
