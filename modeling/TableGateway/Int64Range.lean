/-!
# The signed 64-bit range

Integers come into the program from texts, documents and floating-point numbers, and have to be
brought into 64 bits: `int64?` refuses what does not fit, `clampInt64` takes the nearest number
that does.
-/

namespace TableGateway

/-- Whether an integer is a signed 64-bit number. -/
def FitsInt64 (n : Int) : Prop := -0x8000000000000000 ≤ n ∧ n < 0x8000000000000000

instance (n : Int) : Decidable (FitsInt64 n) := inferInstanceAs (Decidable (_ ∧ _))

/-- The 64-bit number equal to an integer, if there is one. -/
def int64? (n : Int) : Option Int64 := if FitsInt64 n then some (Int64.ofInt n) else none

/-- The 64-bit number nearest to an integer. -/
def clampInt64 (n : Int) : Int64 :=
  Int64.ofInt (max (-0x8000000000000000) (min n 0x7fffffffffffffff))

theorem toInt_ofInt {n : Int} (h : FitsInt64 n) : (Int64.ofInt n).toInt = n :=
  Int64.toInt_ofInt_of_le (by simpa using h.1) (by simpa using h.2)

theorem fitsInt64_toInt (i : Int64) : FitsInt64 i.toInt :=
  ⟨i.le_toInt, i.toInt_lt⟩

/-- Exactly the integer that a 64-bit number denotes is read as it. -/
theorem int64?_eq_some_iff {n : Int} {i : Int64} : int64? n = some i ↔ i.toInt = n := by
  unfold int64?
  constructor
  · intro h
    split at h
    · next hn =>
      obtain rfl := Option.some.inj h
      exact toInt_ofInt hn
    · contradiction
  · intro h
    subst h
    rw [if_pos (fitsInt64_toInt i), Int64.ofInt_toInt]

theorem clampInt64_eq {n : Int} (h : FitsInt64 n) : clampInt64 n = Int64.ofInt n := by
  have h1 := h.1
  have h2 := h.2
  unfold clampInt64
  congr 1
  omega

end TableGateway
