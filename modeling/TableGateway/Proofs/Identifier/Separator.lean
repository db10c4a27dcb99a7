import TableGateway.Identifier.Alias

/-!
# The first separator of an expression

The separator before an alias can be written in four ways. Read character by character, an
expression is split where one of them comes first, wherever that is, and it is split into what
stands before and what stands behind; it stays whole if there is none. What follows behind a
separator cannot move the split.

Main statements: `splitAlias?_eq_none_iff`, `splitAlias?_eq_some_iff`, `SplitsAtFirst.append`.
-/

namespace TableGateway.Identifier

/-- What follows a separator at the head of a text. -/
def afterSeparator? : List Char → Option (List Char)
  | ' ' :: a :: s :: ' ' :: rest =>
    if (a = 'a' ∨ a = 'A') ∧ (s = 's' ∨ s = 'S') then some rest else none
  | _ => none

/-- The texts to the left and to the right of the first separator. -/
def splitAlias? : List Char → Option (List Char × List Char)
  | [] => none
  | c :: cs =>
    match afterSeparator? (c :: cs) with
    | some right => some ([], right)
    | none => (splitAlias? cs).map fun (left, right) => (c :: left, right)

/-- Somewhere in the text stands a separator. -/
def HasSeparator (text : List Char) : Prop := ∃ sep ∈ separators, sep <:+: text

instance (text : List Char) : Decidable (HasSeparator text) :=
  inferInstanceAs (Decidable (∃ sep ∈ separators, _))

/-- The text is split around a separator, and no other comes earlier. -/
structure SplitsAtFirst (text left right : List Char) : Prop where
  around : ∃ sep ∈ separators, text = left ++ sep ++ right
  first : ∀ earlier later, ∀ sep ∈ separators, text = earlier ++ sep ++ later →
    left.length ≤ earlier.length

variable {text left right : List Char}

theorem length_of_mem_separators {sep : List Char} (h : sep ∈ separators) : sep.length = 4 := by
  revert sep
  decide

theorem close_not_mem_of_mem_separators {sep : List Char} (h : sep ∈ separators) : ')' ∉ sep := by
  revert sep
  decide

theorem getLast?_of_mem_separators {sep : List Char} (h : sep ∈ separators) :
    sep.getLast? = some ' ' := by
  revert sep
  decide

/-! ## At the head of a text -/

theorem afterSeparator?_eq_some_iff :
    afterSeparator? text = some right ↔ ∃ sep ∈ separators, text = sep ++ right := by
  constructor
  · intro h
    unfold afterSeparator? at h
    split at h
    · next a s rest =>
      split at h
      · next hletters =>
        obtain rfl := Option.some.inj h
        refine ⟨[' ', a, s, ' '], ?_, rfl⟩
        obtain ⟨rfl | rfl, rfl | rfl⟩ := hletters <;> decide
      · contradiction
    · contradiction
  · rintro ⟨sep, hsep, rfl⟩
    simp only [separators, List.map_cons, List.map_nil, List.mem_cons, List.not_mem_nil,
      or_false] at hsep
    rcases hsep with rfl | rfl | rfl | rfl <;> rfl

/-- A separator stands at the head of a text or further down. -/
theorem hasSeparator_cons {c : Char} :
    HasSeparator (c :: text) ↔ (∃ right, afterSeparator? (c :: text) = some right)
      ∨ HasSeparator text := by
  simp only [HasSeparator, List.infix_cons_iff, afterSeparator?_eq_some_iff]
  constructor
  · rintro ⟨sep, hsep, ⟨right, hright⟩ | hbelow⟩
    · exact .inl ⟨right, sep, hsep, hright.symm⟩
    · exact .inr ⟨sep, hsep, hbelow⟩
  · rintro (⟨right, sep, hsep, hright⟩ | ⟨sep, hsep, hbelow⟩)
    · exact ⟨sep, hsep, .inl ⟨right, hright.symm⟩⟩
    · exact ⟨sep, hsep, .inr hbelow⟩

/-! ## The split -/

theorem splitAlias?_eq_none_iff : splitAlias? text = none ↔ ¬ HasSeparator text := by
  induction text with
  | nil => decide
  | cons c cs ih =>
    rw [hasSeparator_cons, splitAlias?]
    cases hafter : afterSeparator? (c :: cs) with
    | none => simpa using ih
    | some right => simp

theorem splitsAtFirst_of_splitAlias? (h : splitAlias? text = some (left, right)) :
    SplitsAtFirst text left right := by
  induction text generalizing left with
  | nil => contradiction
  | cons c cs ih =>
    rw [splitAlias?] at h
    split at h
    · next hafter =>
      obtain ⟨rfl, rfl⟩ := Prod.mk.inj (Option.some.inj h)
      exact ⟨afterSeparator?_eq_some_iff.mp hafter, fun _ _ _ _ _ => Nat.zero_le _⟩
    · next hafter =>
      obtain ⟨⟨left', right'⟩, hsplit, heq⟩ := Option.map_eq_some_iff.mp h
      obtain ⟨rfl, rfl⟩ := Prod.mk.inj heq
      obtain ⟨⟨sep, hsep, hcs⟩, hfirst⟩ := ih hsplit
      refine ⟨⟨sep, hsep, by rw [hcs]; rfl⟩, fun earlier later other hother htext => ?_⟩
      cases earlier with
      | nil =>
        -- A separator at the head would have been taken.
        have hhead := afterSeparator?_eq_some_iff.mpr ⟨other, hother, htext⟩
        rw [hafter] at hhead
        contradiction
      | cons d earlier =>
        obtain ⟨-, htext⟩ := List.cons.inj htext
        exact Nat.succ_le_succ (hfirst earlier later other hother htext)

/-- There is one first separator only. -/
theorem SplitsAtFirst.unique {left' right' : List Char} (h : SplitsAtFirst text left right)
    (h' : SplitsAtFirst text left' right') : left = left' ∧ right = right' := by
  obtain ⟨⟨sep, hsep, htext⟩, hfirst⟩ := h
  obtain ⟨⟨sep', hsep', htext'⟩, hfirst'⟩ := h'
  have hlength : left.length = left'.length :=
    Nat.le_antisymm (hfirst left' right' sep' hsep' htext') (hfirst' left right sep hsep htext)
  have heq : left ++ (sep ++ right) = left' ++ (sep' ++ right') := by
    rw [← List.append_assoc, ← List.append_assoc, ← htext, ← htext']
  obtain ⟨hleft, hrest⟩ := List.append_inj heq hlength
  have hseps : sep.length = sep'.length := by
    rw [length_of_mem_separators hsep, length_of_mem_separators hsep']
  exact ⟨hleft, (List.append_inj hrest hseps).2⟩

theorem splitAlias?_eq_some_iff :
    splitAlias? text = some (left, right) ↔ SplitsAtFirst text left right := by
  refine ⟨splitsAtFirst_of_splitAlias?, fun h => ?_⟩
  cases hsplit : splitAlias? text with
  | none =>
    obtain ⟨sep, hsep, htext⟩ := h.around
    exact absurd ⟨sep, hsep, left, right, htext.symm⟩ (splitAlias?_eq_none_iff.mp hsplit)
  | some found =>
    obtain ⟨rfl, rfl⟩ := (splitsAtFirst_of_splitAlias? hsplit).unique h
    rfl

theorem exists_splitsAtFirst (h : HasSeparator text) :
    ∃ left right, SplitsAtFirst text left right := by
  cases hsplit : splitAlias? text with
  | none => exact absurd h (splitAlias?_eq_none_iff.mp hsplit)
  | some found => exact ⟨found.1, found.2, splitsAtFirst_of_splitAlias? hsplit⟩

/-- What is added behind a text that has a separator belongs to the alias. -/
theorem SplitsAtFirst.append (h : SplitsAtFirst text left right) (more : List Char) :
    SplitsAtFirst (text ++ more) left (right ++ more) := by
  obtain ⟨⟨sep, hsep, htext⟩, hfirst⟩ := h
  refine ⟨⟨sep, hsep, by rw [htext, List.append_assoc]⟩, ?_⟩
  intro earlier later other hother hmore
  refine Nat.le_of_not_lt fun hlt => ?_
  -- An earlier separator would end within the text.
  have hlength : (earlier ++ other).length ≤ text.length := by
    rw [htext]
    simp only [List.length_append, length_of_mem_separators hsep, length_of_mem_separators hother]
    omega
  have hprefix : earlier ++ other <+: text :=
    List.prefix_of_prefix_length_le ⟨later, hmore.symm⟩ (List.prefix_append text more) hlength
  obtain ⟨later', hlater⟩ := hprefix
  exact Nat.not_le_of_lt hlt (hfirst earlier later' other hother hlater.symm)

end TableGateway.Identifier
