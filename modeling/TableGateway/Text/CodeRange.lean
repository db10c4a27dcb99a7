/-!
# Ranges of code points

A property of characters is a table of ranges of code points, ends included, ascending and apart. A
look-up stops at the first range that begins beyond the code point. As the ranges of a table ascend,
it still finds exactly the code points of all the ranges.

Main statement: `RangeTable.holds_iff`.
-/

namespace TableGateway.Text

/-- Whether a code point lies in one of ascending ranges. -/
def inRanges : List (Nat × Nat) → Nat → Bool
  | [], _ => false
  | (first, last) :: rest, n => first ≤ n && (n ≤ last || inRanges rest n)

/-- Whether ranges begin at `low` or later, hold something, ascend, and do not touch each other. -/
def ascendFrom : Nat → List (Nat × Nat) → Bool
  | _, [] => true
  | low, (first, last) :: rest => low ≤ first && first ≤ last && ascendFrom (last + 2) rest

/-- No range begins before the first one may. -/
theorem le_fst_of_ascendFrom {low : Nat} {ranges : List (Nat × Nat)} (h : ascendFrom low ranges)
    {range : Nat × Nat} (hmem : range ∈ ranges) : low ≤ range.1 := by
  induction ranges generalizing low with
  | nil => simp at hmem
  | cons head rest ih =>
    simp only [ascendFrom, Bool.and_eq_true, decide_eq_true_eq] at h
    rcases List.mem_cons.mp hmem with rfl | hrest
    · exact h.1.1
    · have := ih h.2 hrest
      omega

/-- Among ascending ranges the look-up finds the code points of all of them. -/
theorem inRanges_iff {low : Nat} {ranges : List (Nat × Nat)} (h : ascendFrom low ranges)
    (n : Nat) : inRanges ranges n ↔ ∃ range ∈ ranges, range.1 ≤ n ∧ n ≤ range.2 := by
  induction ranges generalizing low with
  | nil => simp [inRanges]
  | cons head rest ih =>
    simp only [ascendFrom, Bool.and_eq_true, decide_eq_true_eq] at h
    simp only [inRanges, Bool.and_eq_true, Bool.or_eq_true, decide_eq_true_eq, ih h.2,
      List.mem_cons, or_and_right, exists_or, exists_eq_left]
    constructor
    · rintro ⟨hfirst, hlast | hrest⟩
      · exact .inl ⟨hfirst, hlast⟩
      · exact .inr hrest
    · rintro (⟨hfirst, hlast⟩ | ⟨range, hmem, hle, hge⟩)
      · exact ⟨hfirst, .inl hlast⟩
      · have := le_fst_of_ascendFrom h.2 hmem
        exact ⟨by omega, .inr ⟨range, hmem, hle, hge⟩⟩

/-- Ranges of code points that ascend and do not touch each other. -/
structure RangeTable where
  ranges : List (Nat × Nat)
  ascend : ascendFrom 0 ranges

namespace RangeTable

/-- Whether a code point lies in a range of the table. -/
def holds (table : RangeTable) (n : Nat) : Bool := inRanges table.ranges n

theorem holds_iff (table : RangeTable) (n : Nat) :
    table.holds n ↔ ∃ range ∈ table.ranges, range.1 ≤ n ∧ n ≤ range.2 :=
  inRanges_iff table.ascend n

end RangeTable

end TableGateway.Text
