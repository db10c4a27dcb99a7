import Mathlib.Algebra.Group.Nat.Defs
import Mathlib.Data.List.Induction
import TableGateway.Decimal.Integer

/-!
# Runs of digits

A run of digits is the text of the number that it denotes, with zeros in front of it. So the length
of a run and its number determine the run, and the number is as small as the length allows.

Main statements: `IsRun.exists_eq_zeros_append`, `IsRun.eq_zeros_append`, `IsRun.eq_digits`.
-/

namespace TableGateway.Decimal

/-- A non-empty run of digits. -/
structure IsRun (run : List Char) : Prop where
  ne_nil : run ≠ []
  digits : ∀ c ∈ run, c.isDigit

variable {run rest : List Char}

/-- A run of digits has no sign in front. -/
theorem IsRun.head_isDigit {c : Char} {run : List Char} (h : IsRun (c :: run)) : c.isDigit :=
  h.digits c List.mem_cons_self

theorem isRun_digits (n : Nat) : IsRun (digits n) :=
  ⟨digits_ne_nil n, fun _ hc => isDigit_of_mem_digits hc⟩

theorem ofDigitChars_digits (n : Nat) : Nat.ofDigitChars 10 (digits n) 0 = n :=
  Nat.ofDigitChars_ten_toDigits

theorem length_digits_le_iff {n width : Nat} (h : 0 < width) :
    (digits n).length ≤ width ↔ n < 10 ^ width :=
  Nat.length_toDigits_le_iff (by decide) h

/-! ## Zeros in front -/

/-- A digit is the character of its value. -/
theorem exists_digitChar_eq {c : Char} (h : c.isDigit) :
    ∃ d < 10, c = Nat.digitChar d ∧ c.toNat - '0'.toNat = d := by
  have hbounds : '0'.val ≤ c.val ∧ c.val ≤ '9'.val := by simpa [Char.isDigit] using h
  have hlow : 48 ≤ c.toNat := hbounds.1
  have hhigh : c.toNat ≤ 57 := hbounds.2
  have hten : ∀ d < 10, Nat.digitChar d = Char.ofNat (48 + d) := by decide
  have hvalue : c.toNat - 48 < 10 := by omega
  refine ⟨c.toNat - 48, hvalue, ?_, rfl⟩
  rw [hten _ hvalue, Nat.add_sub_cancel' hlow, Char.ofNat_toNat]

/-- One more digit: the text of ten times a number and the digit. -/
theorem digits_append_digitChar {n d : Nat} (hn : 0 < n) (hd : d < 10) :
    digits n ++ [Nat.digitChar d] = digits (10 * n + d) := by
  rw [digits, digits, ← Nat.toDigits_append_toDigits (by decide) hn hd, Nat.toDigits_of_lt_base hd]

theorem IsRun.exists_eq_zeros_append (h : IsRun run) :
    ∃ zeros, run = List.replicate zeros '0' ++ Decimal.digits (Nat.ofDigitChars 10 run 0) := by
  obtain ⟨hne, hdigits⟩ := h
  -- From the back, as the last digit is the last digit of the number.
  induction run using List.reverseRecOn with
  | nil => contradiction
  | append_singleton run c ih =>
    obtain ⟨d, hd, rfl, -⟩ := exists_digitChar_eq (hdigits c (by simp))
    have hvalue : Nat.ofDigitChars 10 (run ++ [Nat.digitChar d]) 0
        = 10 * Nat.ofDigitChars 10 run 0 + d := by
      rw [Nat.ofDigitChars_append, Nat.ofDigitChars_cons_digitChar_of_lt_ten hd,
        Nat.ofDigitChars_nil]
    have hsingle : Decimal.digits d = [Nat.digitChar d] := Nat.toDigits_of_lt_base hd
    rw [hvalue]
    by_cases hnil : run = []
    · subst hnil
      exact ⟨0, by simp [hsingle]⟩
    · obtain ⟨zeros, hzeros⟩ := ih hnil fun c hc => hdigits c (List.mem_append_left _ hc)
      rcases Nat.eq_zero_or_pos (Nat.ofDigitChars 10 run 0) with hzero | hpos
      · -- The run before consists of zeros only.
        rw [hzero] at hzeros
        refine ⟨zeros + 1, ?_⟩
        rw [hzero, Nat.mul_zero, Nat.zero_add, hsingle, List.replicate_succ']
        exact congrArg (· ++ [Nat.digitChar d]) hzeros
      · refine ⟨zeros, ?_⟩
        rw [← digits_append_digitChar hpos hd, ← List.append_assoc, ← hzeros]

/-- The number and the length determine the run. -/
theorem IsRun.eq_zeros_append (h : IsRun run) :
    run = List.replicate (run.length - (Decimal.digits (Nat.ofDigitChars 10 run 0)).length) '0'
      ++ Decimal.digits (Nat.ofDigitChars 10 run 0) := by
  obtain ⟨zeros, hzeros⟩ := h.exists_eq_zeros_append
  have hlength := congrArg List.length hzeros
  rw [List.length_append, List.length_replicate] at hlength
  rwa [hlength, Nat.add_sub_cancel]

theorem IsRun.length_digits_le (h : IsRun run) :
    (Decimal.digits (Nat.ofDigitChars 10 run 0)).length ≤ run.length := by
  obtain ⟨zeros, hzeros⟩ := h.exists_eq_zeros_append
  have hlength := congrArg List.length hzeros
  rw [List.length_append] at hlength
  omega

theorem IsRun.ofDigitChars_lt (h : IsRun run) : Nat.ofDigitChars 10 run 0 < 10 ^ run.length :=
  (length_digits_le_iff (List.length_pos_iff.mpr h.ne_nil)).mp h.length_digits_le

/-- Without a zero in front the run is the text of its number. -/
theorem IsRun.eq_digits (h : IsRun run) (hhead : run.head? ≠ some '0') :
    run = Decimal.digits (Nat.ofDigitChars 10 run 0) := by
  obtain ⟨zeros, hzeros⟩ := h.exists_eq_zeros_append
  cases zeros with
  | zero => simpa using hzeros
  | succ zeros =>
    rw [hzeros, List.replicate_succ, List.cons_append, List.head?_cons] at hhead
    exact absurd rfl hhead

/-- The text of a positive number has no zero in front. -/
theorem head?_digits_ne {n : Nat} (h : 0 < n) : (digits n).head? ≠ some '0' := by
  intro hhead
  obtain ⟨rest, hrest⟩ := List.head?_eq_some_iff.mp hhead
  -- Without the zero, fewer digits would do.
  have hvalue : Nat.ofDigitChars 10 rest 0 = n := by
    rw [← ofDigitChars_digits n, hrest, Nat.ofDigitChars_cons]
    rfl
  cases rest with
  | nil =>
    rw [Nat.ofDigitChars_nil] at hvalue
    omega
  | cons c rest =>
    have hrun : IsRun (c :: rest) := ⟨List.cons_ne_nil _ _, fun d hd =>
      isDigit_of_mem_digits (hrest ▸ List.mem_cons_of_mem _ hd)⟩
    have hle := hrun.length_digits_le
    rw [hvalue, hrest] at hle
    exact Nat.not_succ_le_self _ hle

/-! ## Parts of runs -/

theorem IsRun.append {other : List Char} (h : IsRun run) (hother : ∀ c ∈ other, c.isDigit) :
    IsRun (run ++ other) :=
  ⟨List.append_ne_nil_of_left_ne_nil h.ne_nil other, List.forall_mem_append.mpr ⟨h.digits, hother⟩⟩

theorem IsRun.zeros_append (h : IsRun run) (zeros : Nat) :
    IsRun (List.replicate zeros '0' ++ run) := by
  refine ⟨List.append_ne_nil_of_right_ne_nil _ h.ne_nil, fun c hc => ?_⟩
  rcases List.mem_append.mp hc with hzero | hdigit
  · rw [List.eq_of_mem_replicate hzero]
    decide
  · exact h.digits c hdigit

theorem IsRun.take {count : Nat} (h : IsRun run) (hcount : 0 < count) : IsRun (run.take count) :=
  ⟨fun hnil => (List.take_eq_nil_iff.mp hnil).elim (Nat.ne_of_gt hcount) h.ne_nil,
    fun c hc => h.digits c (List.mem_of_mem_take hc)⟩

theorem IsRun.drop {count : Nat} (h : IsRun run) (hcount : count < run.length) :
    IsRun (run.drop count) :=
  ⟨fun hnil => Nat.not_le_of_lt hcount (List.drop_eq_nil_iff.mp hnil),
    fun c hc => h.digits c (List.mem_of_mem_drop hc)⟩

/-! ## Runs before something else -/

/-- A run ends where no further digit follows. -/
theorem IsRun.takeWhile_append (h : IsRun run) (hrest : rest.takeWhile Char.isDigit = []) :
    (run ++ rest).takeWhile Char.isDigit = run := by
  rw [List.takeWhile_append_of_pos h.digits, hrest, List.append_nil]

theorem IsRun.dropWhile_append (h : IsRun run) (hrest : rest.takeWhile Char.isDigit = []) :
    (run ++ rest).dropWhile Char.isDigit = rest := by
  have hwhole : rest.takeWhile Char.isDigit ++ rest.dropWhile Char.isDigit = rest :=
    List.takeWhile_append_dropWhile
  rw [hrest, List.nil_append] at hwhole
  rw [List.dropWhile_append_of_pos h.digits, hwhole]

end TableGateway.Decimal
