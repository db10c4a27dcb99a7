import TableGateway.Proofs.Calendar.Date

/-!
# Date-times read back from their texts

The reader of dates is followed by one of times. Hour, minute and second have two digits each, with
colons between them. In ISO texts a `T` stands between date and time, and decimals come in up to
three groups of three digits, the last of them not zero. The time has to be one of the day; the
sixtieth second of a minute is a leap second.

The reader accepts the texts of date-times and no others, and gives the date-time back. There is one
exception. The clocks of a time zone can show a leap second within a minute. Its text is that of the
second after it, which has no place of its own: it is the second after it that is read.

Main statements: `ofIso?_eq_some_iff`, `ofIso?_isoText`, `ofIso?_isoText_eq_self_iff`,
`ofText?_text`.
-/

namespace TableGateway

open Decimal (IsRun)

/-! ## Clocks -/

namespace TimeOfDay

theorem hour_lt (t : TimeOfDay) : t.hour < 10 ^ 2 := by
  have := t.seconds.isLt
  unfold hour
  omega

theorem minute_lt (t : TimeOfDay) : t.minute < 10 ^ 2 := by
  unfold minute
  omega

theorem writtenSecond_lt (t : TimeOfDay) : t.writtenSecond < 10 ^ 2 := by
  have := t.nanosecond.isLt
  unfold writtenSecond second
  omega

end TimeOfDay

namespace DateTime

variable {cs rest : List Char}

/-- Hour, minute and second as they are written, and what follows them. -/
def clock? (cs : List Char) : Option ((Nat × Nat × Nat) × List Char) := do
  let (hour, cs) ← number? 2 cs
  let cs ← after? ':' cs
  let (minute, cs) ← number? 2 cs
  let cs ← after? ':' cs
  let (second, cs) ← number? 2 cs
  return ((hour, minute, second), cs)

theorem clock?_eq_some_iff {t : TimeOfDay} :
    clock? cs = some ((t.hour, t.minute, t.writtenSecond), rest)
      ↔ cs = (timeText t).toList ++ rest := by
  have htext : (timeText t).toList ++ rest = (padded 2 t.hour).toList ++ ':' ::
      ((padded 2 t.minute).toList ++ ':' :: ((padded 2 t.writtenSecond).toList ++ rest)) := by
    simp [timeText]
  rw [htext]
  constructor
  · intro h
    simp only [clock?, Option.bind_eq_bind, Option.bind_eq_some_iff, Prod.exists,
      after?_eq_some_iff, number?_eq_some_iff (by decide : 0 < 2)] at h
    obtain ⟨hour, _, ⟨-, rfl⟩, _, rfl, minute, _, ⟨-, rfl⟩, _, rfl, second, _, ⟨-, rfl⟩, heq⟩ := h
    simp only [Option.pure_def, Option.some_inj, Prod.mk.injEq] at heq
    obtain ⟨⟨rfl, rfl, rfl⟩, rfl⟩ := heq
    rfl
  · rintro rfl
    have hsecond := number?_padded (by decide) t.writtenSecond_lt rest
    have hminute := number?_padded (by decide) t.minute_lt
      (':' :: ((padded 2 t.writtenSecond).toList ++ rest))
    have hhour := number?_padded (by decide) t.hour_lt
      (':' :: ((padded 2 t.minute).toList ++ ':' :: ((padded 2 t.writtenSecond).toList ++ rest)))
    simp only [clock?, hhour, hminute, hsecond, after?, Option.bind_eq_bind, Option.bind_some,
      if_true]
    rfl

/-! ## Decimals -/

/-- The nanoseconds that decimals stand for: nothing, or up to three groups of three digits behind a
point. No group is written that is not needed. -/
def decimals? : List Char → Option Nat
  | [] => some 0
  | '.' :: run =>
    let n := Nat.ofDigitChars 10 run 0
    if run.length ∈ [3, 6, 9] ∧ run.all Char.isDigit ∧ n % 1000 ≠ 0 then
      some (n * 10 ^ (9 - run.length))
    else none
  | _ => none

/-- Behind a point stand up to three groups of digits, the last of them not zero. -/
theorem decimals?_point_iff {run : List Char} {n : Nat} :
    decimals? ('.' :: run) = some n
      ↔ ∃ width ∈ [3, 6, 9], ∃ m < 10 ^ width, m % 1000 ≠ 0
        ∧ run = (padded width m).toList ∧ n = m * 10 ^ (9 - width) := by
  rw [decimals?]
  constructor
  · intro h
    split at h
    · next hrun =>
      obtain ⟨hlength, hdigits, hgroup⟩ := hrun
      have hwidth : 0 < run.length := Nat.pos_of_ne_zero fun hzero => by simp [hzero] at hlength
      have hisRun : IsRun run :=
        ⟨List.length_pos_iff.mp hwidth, List.all_eq_true.mp hdigits⟩
      exact ⟨run.length, hlength, _, hisRun.ofDigitChars_lt, hgroup,
        (eq_padded_iff hisRun hwidth).mpr (.inl rfl), (Option.some.inj h).symm⟩
    · contradiction
  · rintro ⟨width, hmem, m, hm, hgroup, rfl, rfl⟩
    have hwidth : 0 < width := Nat.pos_of_ne_zero fun hzero => by simp [hzero] at hmem
    rw [length_padded hwidth hm, ofDigitChars_padded,
      if_pos ⟨hmem, List.all_eq_true.mpr (isRun_padded width m).digits, hgroup⟩]

theorem decimals?_lt {n : Nat} (h : decimals? cs = some n) : n < 1000000000 := by
  unfold decimals? at h
  split at h
  · rw [← Option.some.inj h]
    decide
  · next run =>
    obtain ⟨width, hmem, m, hm, -, -, rfl⟩ := decimals?_point_iff.mp h
    simp only [List.mem_cons, List.not_mem_nil, or_false] at hmem
    rcases hmem with rfl | rfl | rfl <;> omega
  · contradiction

theorem decimals?_eq_some_iff {t : TimeOfDay} :
    decimals? cs = some t.fraction ↔ cs = (fractionText t).toList := by
  have hlt : t.fraction < 1000000000 := Nat.mod_lt _ (by decide)
  unfold fractionText
  dsimp only
  constructor
  · intro h
    cases cs with
    | nil =>
      rw [if_pos (Option.some.inj h).symm]
      rfl
    | cons c run =>
      obtain rfl : c = '.' := Decidable.byContradiction fun hne => by simp [decimals?, hne] at h
      obtain ⟨width, hmem, m, hm, hgroup, rfl, hvalue⟩ := decimals?_point_iff.mp h
      simp only [List.mem_cons, List.not_mem_nil, or_false] at hmem
      rw [if_neg (by rintro hzero; rcases hmem with rfl | rfl | rfl <;> omega)]
      rcases hmem with rfl | rfl | rfl
      · rw [if_pos (by omega), show t.fraction / 1000000 = m by omega]
        simp
      · rw [if_neg (by omega), if_pos (by omega), show t.fraction / 1000 = m by omega]
        simp
      · rw [if_neg (by omega), if_neg (by omega), show t.fraction = m by omega]
        simp
  · rintro rfl
    split
    · next hzero => exact congrArg some hzero.symm
    · -- As many groups as the nanosecond needs.
      split
      · rw [String.toList_append]
        exact decimals?_point_iff.mpr
          ⟨3, by decide, t.fraction / 1000000, by omega, by omega, rfl, by omega⟩
      · split
        · rw [String.toList_append]
          exact decimals?_point_iff.mpr
            ⟨6, by decide, t.fraction / 1000, by omega, by omega, rfl, by omega⟩
        · rw [String.toList_append]
          exact decimals?_point_iff.mpr
            ⟨9, by decide, t.fraction, by omega, by omega, rfl, by omega⟩

end DateTime

/-! ## Leap seconds -/

namespace TimeOfDay

variable {t : TimeOfDay}

/-- A leap second, if this is one, is the sixtieth second of its minute. -/
def LeapAtEnd (t : TimeOfDay) : Prop := t.nanosecond.val < 1000000000 ∨ t.second = 59

instance (t : TimeOfDay) : Decidable t.LeapAtEnd := inferInstanceAs (Decidable (_ ∨ _))

/-- The numbers of a time. -/
theorem ofNumbers?_eq_some_iff {hour minute second nanosecond : Nat} :
    ofNumbers? hour minute second nanosecond = some t
      ↔ t.LeapAtEnd ∧ hour = t.hour ∧ minute = t.minute ∧ second = t.second
        ∧ nanosecond = t.nanosecond := by
  unfold ofNumbers? LeapAtEnd TimeOfDay.hour TimeOfDay.minute TimeOfDay.second
  constructor
  · intro h
    split at h
    · split at h
      · next hleap =>
        obtain rfl := Option.some.inj h
        dsimp only
        omega
      · contradiction
    · contradiction
  · rintro ⟨hleap, rfl, rfl, rfl, rfl⟩
    have hseconds := t.seconds.isLt
    rw [dif_pos ⟨by omega, by omega, by omega, t.nanosecond.isLt⟩, if_pos hleap]
    obtain ⟨⟨seconds, _⟩, nanosecond⟩ := t
    simp only [Option.some_inj, mk.injEq, Fin.mk.injEq, and_true]
    omega

/-- The time that the text of a time names. A leap second within a minute has none, and is written
as the second after it. -/
def written (t : TimeOfDay) : TimeOfDay :=
  if h : t.LeapAtEnd then t
  else
    ⟨⟨t.seconds.val + 1, by unfold LeapAtEnd second at h; omega⟩,
      ⟨t.fraction, by unfold fraction; omega⟩⟩

theorem leapAtEnd_written (t : TimeOfDay) : t.written.LeapAtEnd := by
  unfold written
  split
  · assumption
  · exact .inl (Nat.mod_lt _ (by decide))

/-- The two times show the same numbers. -/
theorem written_numbers (t : TimeOfDay) :
    t.written.hour = t.hour ∧ t.written.minute = t.minute
      ∧ t.written.writtenSecond = t.writtenSecond ∧ t.written.fraction = t.fraction := by
  unfold written
  split
  · exact ⟨rfl, rfl, rfl, rfl⟩
  · next h =>
    have hnanosecond := t.nanosecond.isLt
    unfold LeapAtEnd second at h
    simp only [hour, minute, writtenSecond, second, fraction]
    omega

end TimeOfDay

namespace DateTime

variable {s : String} {t : DateTime}

/-- The time of a clock and the nanoseconds of its second. -/
def time? : Nat × Nat × Nat → Nat → Option TimeOfDay
  | (hour, minute, second), nanosecond =>
    if second = 60 then TimeOfDay.ofNumbers? hour minute 59 (1000000000 + nanosecond)
    else TimeOfDay.ofNumbers? hour minute second nanosecond

/-- A time is known from its clock and the nanoseconds, unless it is a leap second within a
minute. -/
theorem time?_eq_some_iff {time : TimeOfDay} {hour minute second nanosecond : Nat}
    (hlt : nanosecond < 1000000000) :
    time? (hour, minute, second) nanosecond = some time
      ↔ time.LeapAtEnd ∧ (hour, minute, second) = (time.hour, time.minute, time.writtenSecond)
        ∧ nanosecond = time.fraction := by
  have hnanosecond := time.nanosecond.isLt
  have hsecond : time.second < 60 := Nat.mod_lt _ (by decide)
  unfold time?
  simp only [Prod.mk.injEq, TimeOfDay.writtenSecond, TimeOfDay.fraction, TimeOfDay.LeapAtEnd]
  split <;> rw [TimeOfDay.ofNumbers?_eq_some_iff, TimeOfDay.LeapAtEnd] <;> omega

/-- The date-time that the texts of a date-time name. -/
def written (t : DateTime) : DateTime := ⟨t.date, t.time.written⟩

theorem isoText_written (t : DateTime) : t.written.isoText = t.isoText := by
  obtain ⟨hhour, hminute, hsecond, hfraction⟩ := t.time.written_numbers
  simp only [isoText, written, timeText, fractionText, hhour, hminute, hsecond, hfraction]

/-! ## ISO texts -/

/-- The date-time of an ISO text. -/
def ofIso? (text : String) : Option DateTime := do
  let (date, cs) ← date? text.toList
  let cs ← after? 'T' cs
  let (clock, cs) ← clock? cs
  let nanosecond ← decimals? cs
  let time ← time? clock nanosecond
  return ⟨date, time⟩

/-- Exactly the ISO texts are read. -/
theorem ofIso?_eq_some_iff : ofIso? s = some t ↔ t.time.LeapAtEnd ∧ s = t.isoText := by
  have htext : t.isoText.toList = (dateText t.date).toList
      ++ 'T' :: ((timeText t.time).toList ++ (fractionText t.time).toList) := by
    simp [isoText]
  rw [← String.toList_inj, htext]
  constructor
  · intro h
    simp only [ofIso?, Option.bind_eq_bind, Option.bind_eq_some_iff, Prod.exists,
      after?_eq_some_iff] at h
    obtain ⟨date, _, hdate, cs, rfl, hour, minute, second, rest, hclock, nanosecond, hnanosecond,
      time, htime, heq⟩ := h
    obtain rfl := Option.some.inj heq
    obtain ⟨hleap, hnumbers, rfl⟩ := (time?_eq_some_iff (decimals?_lt hnanosecond)).mp htime
    rw [hnumbers, clock?_eq_some_iff, decimals?_eq_some_iff.mp hnanosecond] at hclock
    exact ⟨hleap, by rw [date?_eq_some_iff.mp hdate, hclock]⟩
  · rintro ⟨hleap, hs⟩
    have hdate := date?_eq_some_iff.mpr hs
    have hclock := clock?_eq_some_iff.mpr
      (rfl : (timeText t.time).toList ++ (fractionText t.time).toList = _)
    have hdecimals := decimals?_eq_some_iff.mpr (rfl : (fractionText t.time).toList = _)
    have htime := (time?_eq_some_iff (decimals?_lt hdecimals)).mpr ⟨hleap, rfl, rfl⟩
    simp only [ofIso?, hdate, after?, hclock, hdecimals, htime, Option.bind_eq_bind,
      Option.bind_some, if_true]
    rfl

theorem ofIso?_isoText (t : DateTime) : ofIso? t.isoText = some t.written :=
  ofIso?_eq_some_iff.mpr ⟨t.time.leapAtEnd_written, t.isoText_written.symm⟩

/-- A date-time itself is read back exactly if it is in no leap second within a minute. -/
theorem ofIso?_isoText_eq_self_iff : ofIso? t.isoText = some t ↔ t.time.LeapAtEnd :=
  ofIso?_eq_some_iff.trans (and_iff_left rfl)

/-- There is no other text that is read as the date-time. -/
theorem ofIso?_eq_some_written_iff : ofIso? s = some t.written ↔ s = t.isoText := by
  rw [ofIso?_eq_some_iff, isoText_written]
  exact and_iff_right t.time.leapAtEnd_written

/-- A leap second at the end of a year; and one within a minute, as it is seen where the clocks are
twenty seconds ahead. -/
example :
    let end2016 : DateTime := ⟨⟨2016, 12, 31, by decide, by decide⟩, ⟨86399, 1500000000⟩⟩
    let ahead := ofZoned ⟨end2016, 20, by decide⟩
    end2016.isoText = "2016-12-31T23:59:60.500" ∧ ofIso? "2016-12-31T23:59:60.500" = some end2016
      ∧ ahead.isoText = "2017-01-01T00:00:20.500"
      ∧ ofIso? "2017-01-01T00:00:20.500" = some ⟨ahead.date, ⟨20, 500000000⟩⟩ := by
  decide +kernel

/-! ## Texts in statements -/

/-- The date-time of a text in statements, which ends with the second. -/
def ofText? (text : String) : Option DateTime := do
  let (date, cs) ← date? text.toList
  let cs ← after? ' ' cs
  let (clock, cs) ← clock? cs
  if cs = [] then
    let time ← time? clock 0
    return ⟨date, time⟩
  else none

/-- Exactly the texts of date-times of whole seconds are read. -/
theorem ofText?_eq_some_iff :
    ofText? s = some t ↔ t.time.LeapAtEnd ∧ t.time.fraction = 0 ∧ s = t.text := by
  have htext : t.text.toList
      = (dateText t.date).toList ++ ' ' :: ((timeText t.time).toList ++ []) := by
    simp [text]
  rw [← String.toList_inj, htext]
  constructor
  · intro h
    simp only [ofText?, Option.bind_eq_bind, Option.bind_eq_some_iff, Prod.exists,
      after?_eq_some_iff] at h
    obtain ⟨date, _, hdate, cs, rfl, hour, minute, second, rest, hclock, h⟩ := h
    split at h
    · next hrest =>
      obtain ⟨time, htime, heq⟩ := Option.bind_eq_some_iff.mp h
      obtain rfl := Option.some.inj heq
      obtain ⟨hleap, hnumbers, hfraction⟩ := (time?_eq_some_iff (by decide)).mp htime
      rw [hnumbers, clock?_eq_some_iff, hrest] at hclock
      exact ⟨hleap, hfraction.symm, by rw [date?_eq_some_iff.mp hdate, hclock]⟩
    · contradiction
  · rintro ⟨hleap, hfraction, hs⟩
    have hdate := date?_eq_some_iff.mpr hs
    have hclock := clock?_eq_some_iff.mpr (rfl : (timeText t.time).toList ++ [] = _)
    have htime := (time?_eq_some_iff (by decide)).mpr ⟨hleap, rfl, hfraction.symm⟩
    simp only [ofText?, hdate, after?, hclock, htime, Option.bind_eq_bind, Option.bind_some,
      if_true]
    rfl

/-- The date-time that the text in statements names: the decimals of the second are lost. -/
def wholeSecond (t : DateTime) : DateTime :=
  ⟨t.date, ⟨t.time.seconds, ⟨t.time.nanosecond.val / 1000000000 * 1000000000, by omega⟩⟩⟩

theorem ofText?_text (t : DateTime) : ofText? t.text = some t.written.wholeSecond := by
  obtain ⟨hhour, hminute, hsecond, -⟩ := t.time.written_numbers
  have hwritten : t.written.text = t.text := by
    simp only [text, written, timeText, hhour, hminute, hsecond]
  have hwhole : t.written.wholeSecond.text = t.written.text := by
    simp only [text, wholeSecond, timeText, TimeOfDay.hour, TimeOfDay.minute,
      TimeOfDay.writtenSecond, TimeOfDay.second, Nat.mul_div_cancel _ (Nat.zero_lt_succ 999999999)]
  refine ofText?_eq_some_iff.mpr ⟨?_, Nat.mul_mod_left _ _, (hwhole.trans hwritten).symm⟩
  have hleap : t.written.time.LeapAtEnd := t.time.leapAtEnd_written
  unfold TimeOfDay.LeapAtEnd TimeOfDay.second wholeSecond at *
  dsimp only
  omega

end DateTime

end TableGateway
