import TableGateway.Proofs.Lexical.Reading

/-!
# The groups at the top of a text

A group is what stands between a parenthesis that is opened at depth zero, outside of quotations,
and the one that closes it. `topGroups` cuts a text into its groups and what stands before each of
them; parentheses further inside, and those in quotations, do not count.

Main statement: `groupsFrom_group`.
-/

namespace TableGateway.Lexical

/-- The groups of a text, each behind the text that stands before it, and the text that follows the
last. -/
structure Groups where
  groups : List (List Char × List Char)
  rest : List Char
  deriving DecidableEq, Repr

/-- The groups of what remains, given the state of the reader, the text before the next group, and
of an open group what has been read. -/
def groupsFrom (s : State) (before : List Char) : Option (List Char) → List Char → Groups
  | none, [] => ⟨[], before⟩
  | some group, [] => ⟨[], before ++ '(' :: group⟩
  | none, c :: cs =>
    if (step s c).depth = 1 then groupsFrom (step s c) before (some []) cs
    else groupsFrom (step s c) (before ++ [c]) none cs
  | some group, c :: cs =>
    if (step s c).depth = 0 then
      let following := groupsFrom (step s c) [] none cs
      ⟨(before, group) :: following.groups, following.rest⟩
    else groupsFrom (step s c) before (some (group ++ [c])) cs

/-- The groups of a text. -/
def topGroups (text : List Char) : Groups := groupsFrom (.outside 0) [] none text

/-- Within a group, a text that does not close it belongs to the group. -/
theorem groupsFrom_inside {s : State} {text : List Char} (h : StaysFrom 1 s text)
    (before group rest : List Char) :
    groupsFrom s before (some group) (text ++ rest)
      = groupsFrom (read s text) before (some (group ++ text)) rest := by
  induction text generalizing s group with
  | nil => rw [List.append_nil]; rfl
  | cons c text ih =>
    rw [staysFrom_cons] at h
    -- Behind `c` the group is still open.
    have hnext : 1 ≤ (step s c).depth := h.2 0 (Nat.zero_le _)
    have hopen : ¬ (step s c).depth = 0 := by omega
    rw [List.cons_append, groupsFrom, if_neg hopen, ih h.2, List.append_assoc]
    rfl

/-- Outside of groups, inert characters stand before the next group. -/
theorem groupsFrom_before {text : List Char} (h : ∀ c ∈ text, Inert .outside c)
    (before rest : List Char) :
    groupsFrom (.outside 0) before none (text ++ rest)
      = groupsFrom (.outside 0) (before ++ text) none rest := by
  induction text generalizing before with
  | nil => rw [List.append_nil]; rfl
  | cons c text ih =>
    have hstep : step (.outside 0) c = .outside 0 := h c List.mem_cons_self 0
    have hclosed : ¬ (State.outside 0).depth = 1 := by decide
    rw [List.cons_append, groupsFrom, hstep, if_neg hclosed,
      ih (fun d hd => h d (List.mem_cons_of_mem _ hd)), List.append_assoc]
    rfl

/-- A neutral text in parentheses is one group. -/
theorem groupsFrom_group {text : List Char} (h : Neutral text) (before rest : List Char) :
    groupsFrom (.outside 0) before none ('(' :: text ++ ')' :: rest)
      = ⟨(before, text) :: (topGroups rest).groups, (topGroups rest).rest⟩ := by
  have hopen : step (.outside 0) '(' = .outside 1 := rfl
  have hclose : step (.outside 1) ')' = .outside 0 := rfl
  have hone : (State.outside 1).depth = 1 := rfl
  have hzero : (State.outside 0).depth = 0 := rfl
  obtain ⟨hread, hstays⟩ := h 1
  rw [List.cons_append, groupsFrom, hopen, if_pos hone, groupsFrom_inside hstays, hread,
    List.nil_append, groupsFrom, hclose, if_pos hzero]
  rfl

end TableGateway.Lexical
