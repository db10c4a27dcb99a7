import TableGateway.KeyRules

/-!
# Filling in a scheme

A scheme is read from left to right. Where a mark comes first, what stands before it stays, the name
of the table is put in for the mark, and the reading goes on behind the mark. So marks do not
overlap, and a name that was put in is not read again, even if it has a mark in it.

Main statements: `fillTable_append`, `filled_iff`.
-/

namespace TableGateway.KeyRules

/-- The mark for the table's name. -/
def mark : List Char := ['{', 't', 'a', 'b', 'l', 'e', '}']

/-- A scheme for a table, and the key that comes of it: the mark that comes first gives way to the
name, and the rest is filled in by itself. -/
inductive Filled (table : List Char) : List Char → List Char → Prop where
  | last {piece : List Char} (hfree : ¬ mark <:+: piece) : Filled table piece piece
  | first {piece scheme key : List Char} (hfree : ¬ mark <:+: piece)
    (hrest : Filled table scheme key) :
    Filled table (piece ++ (mark ++ scheme)) (piece ++ (table ++ key))

variable {table piece scheme key rest : List Char} {c : Char}

theorem fillTable_mark : fillTable table (mark ++ rest) = table ++ fillTable table rest := by
  rw [mark]
  simp only [List.cons_append, List.nil_append, fillTable]

theorem fillTable_cons (h : ¬ mark <+: c :: rest) :
    fillTable table (c :: rest) = c :: fillTable table rest := by
  rw [fillTable]
  rintro more rfl rfl
  exact h ⟨more, rfl⟩

/-- The first character of a mark is not in it again, so no mark begins in one piece and ends
behind it. -/
theorem not_mark_prefix (hne : piece ≠ []) (hfree : ¬ mark <+: piece)
    (hrest : rest = [] ∨ mark <+: rest) : ¬ mark <+: piece ++ rest := by
  rintro ⟨behind, hbehind⟩
  rcases List.append_eq_append_iff.mp hbehind with ⟨left, hpiece, -⟩ | ⟨left, hmark, hleft⟩
  · exact hfree ⟨left, hpiece.symm⟩
  obtain ⟨first, others, rfl⟩ := List.exists_cons_of_ne_nil hne
  cases left with
  | nil =>
    rw [List.append_nil] at hmark
    exact hfree (hmark ▸ List.prefix_refl mark)
  | cons l left =>
    have hl : l ∈ mark.tail := by
      rw [hmark]
      simp
    rcases hrest with rfl | ⟨more, rfl⟩
    · contradiction
    · obtain rfl : '{' = l := (List.cons.inj hleft).1
      exact absurd hl (by decide)

/-- A piece without a mark stays, and what is behind it is filled in by itself. -/
theorem fillTable_append (hfree : ¬ mark <:+: piece) (hrest : rest = [] ∨ mark <+: rest) :
    fillTable table (piece ++ rest) = piece ++ fillTable table rest := by
  induction piece with
  | nil => rfl
  | cons c piece ih =>
    rw [List.infix_cons_iff, not_or] at hfree
    have hhead : ¬ mark <+: c :: (piece ++ rest) :=
      not_mark_prefix (List.cons_ne_nil c piece) hfree.1 hrest
    rw [List.cons_append, fillTable_cons hhead, ih hfree.2, List.cons_append]

theorem fillTable_of_filled (h : Filled table scheme key) : fillTable table scheme = key := by
  induction h with
  | @last piece hfree =>
    have hwhole : fillTable table (piece ++ []) = piece ++ fillTable table [] :=
      fillTable_append hfree (.inl rfl)
    rwa [List.append_nil, fillTable, List.append_nil] at hwhole
  | first hfree _ ih =>
    rw [fillTable_append hfree (.inr (List.prefix_append _ _)), fillTable_mark, ih]

/-- A character in front of a scheme comes in front of the key, unless it begins a mark. -/
theorem Filled.cons (hhead : ¬ mark <+: c :: scheme) (h : Filled table scheme key) :
    Filled table (c :: scheme) (c :: key) := by
  have hfree : ∀ {piece rest}, piece ++ rest = scheme → ¬ mark <:+: piece →
      ¬ mark <:+: c :: piece := by
    rintro piece rest rfl hpiece
    rw [List.infix_cons_iff, not_or]
    exact ⟨fun hmark => hhead (hmark.trans (List.prefix_append (c :: piece) rest)), hpiece⟩
  cases h with
  | last hpiece => exact .last (hfree (List.append_nil _) hpiece)
  | @first piece scheme key hpiece hrest =>
    exact (Filled.first (hfree rfl hpiece) hrest :
      Filled table (c :: piece ++ (mark ++ scheme)) (c :: piece ++ (table ++ key)))

theorem filled_fillTable (table scheme : List Char) :
    Filled table scheme (fillTable table scheme) := by
  fun_induction fillTable table scheme with
  | case1 rest ih =>
    have hfree : ¬ mark <:+: [] := by decide
    exact Filled.first hfree ih
  | case2 c rest hhead ih =>
    refine ih.cons ?_
    rintro ⟨more, hmore⟩
    obtain ⟨rfl, hrest⟩ := List.cons.inj hmore
    exact hhead more rfl hrest.symm
  | case3 => exact .last (by decide)

/-- There is one key, and it is found. -/
theorem filled_iff : Filled table scheme key ↔ fillTable table scheme = key := by
  refine ⟨fillTable_of_filled, ?_⟩
  rintro rfl
  exact filled_fillTable table scheme

end TableGateway.KeyRules
